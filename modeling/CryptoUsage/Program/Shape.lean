import CryptoUsage.Program.Constant
import CryptoUsage.Syntax.Tree

/-!
# Sites, symbols and expressions

The language-independent view of a unit.  A *site* is a node that rules can match; a *symbol* is a
declared variable, known by the node that declares it; an *expression* is the shape of a node as
far as following values is concerned.

## What is here

* `Site` has the three kinds of nodes that can be matched: invocations, constructions and
  selections of enum constants.  A site is its node together with its kind.
* `Symbol` has a name, the node that declares it, and how it is declared.  Two symbols are the
  same if the last two agree (`Symbol.same`), so that renaming a variable changes nothing.
* `Expression` has one constructor for each thing that the analysis does with a node: it reads a
  constant off it, goes on inside a wrapper, follows a variable or a selection, looks at a call,
  an enum constant or an array, or gives up.  Which node has which shape is for the languages to
  say; what is done with each shape is stated once.
-/

set_option autoImplicit false

namespace CryptoUsage

/-- A node that rules can match. -/
inductive Site where
  | invocation (node : NodeId)
  | construction (node : NodeId)
  | enumSelection (node : NodeId)
deriving DecidableEq, Repr

namespace Site

/-- The node of a site. -/
def node : Site → NodeId
  | invocation n | construction n | enumSelection n => n

/-- Whether the site selects a constant of an enum. -/
def isEnumSelection : Site → Bool
  | enumSelection _ => true
  | _ => false

end Site

/-- How a variable is declared. -/
inductive SymbolKind where
  | local
  | parameter
  | field
  | enumConstant
deriving DecidableEq, Repr

/-- A declared variable. -/
structure Symbol where
  name : String
  /-- The node that declares it. -/
  declaration : NodeId
  kind : SymbolKind
deriving DecidableEq, Repr

/-- Symbols are the same when one node declares both in the same way; names do not count. -/
def Symbol.same (s t : Symbol) : Bool :=
  s.declaration == t.declaration && s.kind == t.kind

/-- Whether two symbols are both absent or the same. -/
def Symbol.sameOption : Option Symbol → Option Symbol → Bool
  | none, none => true
  | some s, some t => s.same t
  | _, _ => false

/-- The shape of an expression. -/
inductive Expression where
  | literal (value : Constant)
  | variable (symbol : Symbol)
  /-- A member of something that is no known variable. -/
  | member (object : NodeId) (name : String)
  /-- A constant of an enum declared in the unit. -/
  | enumConstant (declaration constant : NodeId)
  | call (site : Site)
  /-- An array with its dimension expressions, its rank, and the number of elements written out. -/
  | arrayCreation (dimensions : List NodeId) (rank : Nat) (elements : Option Nat)
  /-- Something that has the value of the expression inside it: parentheses, a cast. -/
  | wrapped (inner : NodeId)
  | unknown
deriving DecidableEq, Repr

end CryptoUsage
