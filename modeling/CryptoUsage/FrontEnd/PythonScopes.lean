import CryptoUsage.Program.Shape
import CryptoUsage.Program.Unit

/-!
# Scopes of Python variables

A Python name belongs to the innermost function, lambda or module that binds it.  A function binds
its parameters and what its body assigns, wherever in the body that happens; nested functions,
lambdas and classes have scopes of their own.  The variable is known by the first assignment.

A field is an attribute of `self`, known by the first assignment to it in the class.

## What is here

* Definitions.  The nearest class and the nearest function above a node, and the first definition
  of a name in a class or outside of all classes (`definitionNamed?`).
* Parameters.  All of those that have names (`declaredParameters`), and those that callers give
  (`methodParameters`): a method, which is a function directly in the body of a class, gets its
  receiver by itself.
* `boundBy?` is what a node binds for what is inside it, and `lookup?` goes through the nodes
  above the use, nearest first.  Classes bind nothing for what is inside them.
* Fields.  `fieldNamed?` finds the first assignment to an attribute of `self` in a class.
* `symbolScope` is the subtree in which a variable can be used: for a parameter its function or
  lambda, for a field its class, and for any other variable the scope around its declaration.
-/

set_option autoImplicit false

namespace CryptoUsage
namespace Python

variable (u : CompilationUnit)

/-- Whether a node opens a scope of its own. -/
def isScopeBoundary (n : NodeId) : Bool :=
  ["function_definition", "class_definition", "lambda"].contains (u.tree.kind n)

/-- The named children of a node that are not comments. -/
def expressionsOf (n : NodeId) : List NodeId :=
  (u.tree.namedChildren n).filter fun c => u.tree.kind c != "comment"

/-- The nearest class above a node. -/
def enclosingClass? (n : NodeId) : Option NodeId :=
  (u.tree.ancestors n).find? fun a => u.tree.kind a == "class_definition"

/-- The nearest function above a node. -/
def enclosingMethod? (n : NodeId) : Option NodeId :=
  (u.tree.ancestors n).find? fun a => u.tree.kind a == "function_definition"

/-- The nearest function above a node, or else the nearest class, or else the whole unit. -/
def enclosingScope (n : NodeId) : NodeId :=
  ((enclosingMethod? u n).orElse fun _ => enclosingClass? u n).getD SyntaxTree.root

/-- The first definition of a name whose nearest enclosing class is `owner`, or that is in no class
if there is no owner. -/
def definitionNamed? (name kind : String) (owner : Option NodeId) : Option NodeId :=
  (u.declarations.find? fun (declared, n) =>
    declared == name && u.tree.kind n == kind && enclosingClass? u n == owner).map Prod.snd

/-- Whether a function is defined directly in the body of a class, perhaps with decorators. -/
def isMethod (function : NodeId) : Bool :=
  let holder := u.tree.parent? function
  let holder :=
    if holder.map u.tree.kind = some "decorated_definition" then holder.bind u.tree.parent?
    else holder
  (holder.bind u.tree.parent?).map u.tree.kind == some "class_definition"

/-- The node that names a parameter of a function. -/
def parameterName? (parameter : NodeId) : Option NodeId :=
  match u.tree.kind parameter with
  | "identifier" => some parameter
  | "typed_parameter" =>
    (u.tree.namedChildren parameter).find? fun c => u.tree.kind c == "identifier"
  | "default_parameter" | "typed_default_parameter" => u.tree.child? parameter "name"
  | _ => none

/-- All the parameters of a function that have names, in order. -/
def declaredParameters (function : NodeId) : List Symbol :=
  match u.tree.child? function "parameters" with
  | none => []
  | some parameters =>
    (u.tree.namedChildren parameters).filterMap fun parameter =>
      (parameterName? u parameter).map fun name => ⟨u.tree.text name, parameter, .parameter⟩

/-- The parameters of a function that its callers give, in order: a method gets its receiver by
itself. -/
def methodParameters (function : NodeId) : List Symbol :=
  match declaredParameters u function with
  | [] => []
  | first :: rest =>
    if isMethod u function && (first.name == "self" || first.name == "cls") then rest
    else first :: rest

/-- Whether a node is an assignment to the name. -/
def assignsName (name : String) (n : NodeId) : Bool :=
  u.tree.kind n == "assignment" &&
    (u.tree.child? n "left").any fun left =>
      u.tree.kind left == "identifier" && u.tree.text left == name

/-- The variable known by the left side of an assignment. -/
def assignedAt? (name : String) (kind : SymbolKind) (assignment : NodeId) : Option Symbol :=
  (u.tree.child? assignment "left").map fun left => ⟨name, left, kind⟩

/-- The variable that the first assignment to a name within a scope introduces. -/
def firstAssignment? (name : String) (scope : NodeId) : Option Symbol :=
  ((u.tree.preorderWhile (fun n => !isScopeBoundary u n) scope).find? (assignsName u name)).bind
    (assignedAt? u name .local)

/-- The variable `name` that a node binds for what is inside it. -/
def boundBy? (name : String) (scope : NodeId) : Option Symbol :=
  match u.tree.kind scope with
  | "function_definition" =>
    ((methodParameters u scope).find? fun p => p.name == name).orElse fun _ =>
      (u.tree.child? scope "body").bind (firstAssignment? u name)
  | "lambda" => do
    let parameters ← u.tree.child? scope "parameters"
    let parameter ← (u.tree.namedChildren parameters).find? fun p =>
      u.tree.kind p == "identifier" && u.tree.text p == name
    return ⟨name, parameter, .parameter⟩
  | "module" => firstAssignment? u name scope
  | _ => none

/-- The variable that a name stands for at a node. -/
def lookup? (name : String) (origin : NodeId) : Option Symbol :=
  (u.tree.ancestors origin).findSome? (boundBy? u name)

/-- The variable that an identifier stands for. -/
def resolveIdentifier? (identifier : NodeId) : Option Symbol :=
  lookup? u (u.tree.text identifier) identifier

/-- The attribute of `self` that a node names. -/
def selfAttribute? (n : NodeId) : Option String := do
  guard (u.tree.kind n == "attribute")
  let object ← u.tree.child? n "object"
  guard (u.tree.kind object == "identifier" && u.tree.text object == "self")
  let name ← u.tree.child? n "attribute"
  return u.tree.text name

/-- Whether a node is an assignment to the attribute of `self`. -/
def assignsField (name : String) (n : NodeId) : Bool :=
  u.tree.kind n == "assignment" &&
    (u.tree.child? n "left").any fun left => selfAttribute? u left == some name

/-- The field of a class that the first assignment to an attribute of `self` introduces. -/
def fieldNamed? (name : String) (classNode : NodeId) : Option Symbol := do
  let body ← u.tree.child? classNode "body"
  let inside := u.tree.preorderWhile (fun n => u.tree.kind n != "class_definition") body
  let assignment ← inside.find? (assignsField u name)
  assignedAt? u name .field assignment

/-- The subtree in which a variable can be used. -/
def symbolScope (s : Symbol) : NodeId :=
  match s.kind with
  | .local => enclosingScope u s.declaration
  | .parameter =>
    ((u.tree.ancestors s.declaration).find? fun n =>
      u.tree.kind n == "function_definition" || u.tree.kind n == "lambda").getD SyntaxTree.root
  | .field => (enclosingClass? u s.declaration).getD SyntaxTree.root
  | .enumConstant => SyntaxTree.root

end Python
end CryptoUsage
