import CryptoUsage.FrontEnd.PythonScopes
import CryptoUsage.Syntax.Literal

/-!
# Python expressions

The shape of every Python expression (`Python.expression`), the sites among them, and the places
where a variable gets its value.  Every call is an invocation, constructions included, and there
are no enums.

## What is here

This is what the adapter for Python answers about single nodes.

* Shapes.  Texts in a row are one text, and a text with an interpolation is none.  Minus signs in
  front of an integer literal are read together with it, any number of them.  An attribute of
  `self` is a field where the class assigns one, and otherwise a selection on its object.
* Sites.  A call has its arguments in the order in which they stand, named ones by their values;
  its receiver is the object of the attribute that is called, and its name the last part of what
  is called.
* Where variables get their values.  A variable is known by its first assignment, so
  `initializer?` is the value there, and `assignments` are the values that later assignments
  within its scope give to it, nested functions included.
* What functions return.  Only the `return` statements of the function itself count, and not those
  of functions or classes inside it.
-/

set_option autoImplicit false

namespace CryptoUsage
namespace Python

variable (u : CompilationUnit)

/-- The texts of the parts of a string, unless something is interpolated. -/
def stringParts? : List NodeId → Option (List String)
  | [] => some []
  | part :: parts =>
    match u.tree.kind part with
    | "interpolation" => none
    | "string_content" | "escape_sequence" =>
      (stringParts? parts).map fun rest => u.tree.text part :: rest
    | _ => stringParts? parts

/-- The text that a string literal, or several in a row, denote.  Every step goes to a child, so
`height` bounds the number of steps. -/
def stringValueWithin? : Nat → NodeId → Option String
  | 0, _ => none
  | height + 1, n =>
    match u.tree.kind n with
    | "concatenated_string" =>
      ((u.tree.namedChildren n).mapM (stringValueWithin? height)).map String.join
    | "string" => (stringParts? u (u.tree.namedChildren n)).map String.join
    | _ => none

/-- The text that a string literal denotes. -/
def stringValue? (n : NodeId) : Option String := stringValueWithin? u u.tree.size n

/-- The number that an integer literal with any number of minus signs denotes.  Every step goes to a
child, so `height` bounds the number of steps. -/
def signedIntWithin? : Nat → NodeId → Option Int64
  | 0, _ => none
  | height + 1, n =>
    match u.tree.kind n with
    | "integer" => Literal.int? .python (u.tree.text n)
    | "unary_operator" => do
      guard ((u.tree.child? n "operator").map u.tree.text == some "-")
      let argument ← u.tree.child? n "argument"
      let value ← signedIntWithin? height argument
      return -value
    | _ => none

/-- The number that an integer literal with any number of minus signs denotes. -/
def signedInt? (n : NodeId) : Option Int64 := signedIntWithin? u u.tree.size n

/-- The shape of a literal that denotes a constant, if it does. -/
def literalExpression (value : Option Constant) : Expression :=
  (value.map Expression.literal).getD .unknown

/-- The shape of an attribute. -/
def attributeExpression (n : NodeId) : Expression :=
  let field := do
    let name ← selfAttribute? u n
    let owner ← enclosingClass? u n
    fieldNamed? u name owner
  match field with
  | some symbol => .variable symbol
  | none =>
    match u.tree.child? n "object", u.tree.child? n "attribute" with
    | some object, some name => .member object (u.tree.text name)
    | _, _ => .unknown

/-- The shape of a sign in front of an expression. -/
def unaryExpression (n : NodeId) : Expression :=
  match u.tree.child? n "argument" with
  | none => .unknown
  | some argument =>
    match (u.tree.child? n "operator").map u.tree.text with
    | some "-" => literalExpression ((signedInt? u n).map .int)
    | some "+" => .wrapped argument
    | _ => .unknown

/-- The shape of an expression. -/
def expression (n : NodeId) : Expression :=
  match u.tree.kind n with
  | "integer" => literalExpression ((signedInt? u n).map .int)
  | "string" | "concatenated_string" => literalExpression ((stringValue? u n).map .str)
  | "true" => .literal (.bool true)
  | "false" => .literal (.bool false)
  | "identifier" => ((resolveIdentifier? u n).map Expression.variable).getD .unknown
  | "attribute" => attributeExpression u n
  | "call" => .call (.invocation n)
  | "list" | "tuple" => .arrayCreation [] 1 (some (expressionsOf u n).length)
  | "parenthesized_expression" => ((expressionsOf u n).head?.map Expression.wrapped).getD .unknown
  | "unary_operator" => unaryExpression u n
  | _ => .unknown

/-! ## Sites -/

/-- The site that a node is. -/
def site? (n : NodeId) : Option Site :=
  if u.tree.kind n = "call" then some (.invocation n) else none

/-- The arguments of a call, named ones at the place where they stand. -/
def argumentsOf (call : NodeId) : List NodeId :=
  match u.tree.child? call "arguments" with
  | none => []
  | some list =>
    (expressionsOf u list).filterMap fun argument =>
      if u.tree.kind argument = "keyword_argument" then u.tree.child? argument "value"
      else some argument

/-- The arguments of a site. -/
def arguments : Site → List NodeId
  | .invocation call => argumentsOf u call
  | _ => []

/-- What a method is invoked on. -/
def receiver? : Site → Option NodeId
  | .invocation call => do
    let function ← u.tree.child? call "function"
    guard (u.tree.kind function == "attribute")
    u.tree.child? function "object"
  | _ => none

/-- The name of the function that a site invokes. -/
def methodName? : Site → Option String
  | .invocation call => do
    let function ← u.tree.child? call "function"
    match u.tree.kind function with
    | "identifier" => some (u.tree.text function)
    | "attribute" => (u.tree.child? function "attribute").map u.tree.text
    | _ => none
  | _ => none

/-- The name that an expression ends in. -/
def identifierText? (n : NodeId) : Option String :=
  match u.tree.kind n with
  | "identifier" => some (u.tree.text n)
  | "attribute" => (u.tree.child? n "attribute").map u.tree.text
  | "call" => methodName? u (.invocation n)
  | _ => none

/-! ## Where variables get their values -/

/-- The variable that the left side of an assignment stands for. -/
def assignmentTarget? (left : NodeId) : Option Symbol :=
  match u.tree.kind left with
  | "identifier" => resolveIdentifier? u left
  | "attribute" => do
    let name ← selfAttribute? u left
    let owner ← enclosingClass? u left
    fieldNamed? u name owner
  | _ => none

/-- The variable that takes the value of `current`, given the nodes above it. -/
def assignedSymbolFrom? (current : NodeId) : List NodeId → Option Symbol
  | [] => none
  | parent :: above =>
    match u.tree.kind parent with
    | "parenthesized_expression" => assignedSymbolFrom? parent above
    | "assignment" =>
      if u.tree.child? parent "right" = some current then
        (u.tree.child? parent "left").bind (assignmentTarget? u)
      else none
    | _ => none

/-- The variable that takes the value of an expression. -/
def assignedSymbol? (n : NodeId) : Option Symbol :=
  assignedSymbolFrom? u n (u.tree.ancestors n)

/-- The value in the assignment by which a variable is known. -/
def initializer? (s : Symbol) : Option NodeId := do
  let assignment ← u.tree.parent? s.declaration
  guard (u.tree.kind assignment == "assignment")
  guard (u.tree.child? assignment "left" == some s.declaration)
  u.tree.child? assignment "right"

/-- The value that a node assigns to the variable, if it does and is not the assignment by which the
variable is known. -/
def valueAssignedTo? (s : Symbol) (n : NodeId) : Option NodeId := do
  guard (u.tree.kind n == "assignment")
  let left ← u.tree.child? n "left"
  let right ← u.tree.child? n "right"
  guard (left != s.declaration)
  let target ← assignmentTarget? u left
  guard (target.same s)
  return right

/-- The values that later assignments give to a variable, in order. -/
def assignments (s : Symbol) : List NodeId :=
  (u.tree.preorder (symbolScope u s)).filterMap (valueAssignedTo? u s)

/-- Whether a node below the body of a function may hold a `return` of that function. -/
def mayReturnInside (n : NodeId) : Bool :=
  !isScopeBoundary u n && u.tree.kind n != "return_statement"

/-- The expressions that a function returns. -/
def methodReturns (method : NodeId) : List NodeId :=
  match u.tree.child? method "body" with
  | none => []
  | some body =>
    ((u.tree.preorderWhile (mayReturnInside u) body).filter fun n =>
      u.tree.kind n == "return_statement").filterMap fun n => (expressionsOf u n).head?

end Python
end CryptoUsage
