import CryptoUsage.Catalog.Value
import CryptoUsage.FrontEnd.JavaScopes
import CryptoUsage.Syntax.Literal

/-!
# Java expressions

The shape of every Java expression (`Java.expression`), the sites among them, and the places where
a variable gets its value: its initializer, and the plain assignments to it within its scope.

Nothing here asks for a type; that is left to `FrontEnd/JavaTypes`.

## What is here

This is what the adapter for Java answers about single nodes.

* Shapes.  Literals denote constants, text blocks without the blanks around their text.  A field
  access may select a constant of an enum, name a member of a type of the unit, or be a selection
  on its object.  An array creation is taken apart into the expressions in its brackets, its rank
  and the number of its elements.  A plus sign wraps its operand, and a minus sign is read
  together with an integer literal only.
* Sites.  Method calls, constructions and selections of enum constants, each with its arguments,
  its receiver and its name.
* Where variables get their values.  `assignedSymbol?` goes up from an expression to the variable
  that takes it, through parentheses and casts; `assignments` goes through the scope of a variable
  for plain assignments.
* What methods return, and the parts of enums: constants, the arguments they pass, and the
  parameters of the constructors.
-/

set_option autoImplicit false

namespace CryptoUsage
namespace Java

variable (u : CompilationUnit)

/-- The constant that a literal denotes.  A text block loses the blanks around its text. -/
def literal? (n : NodeId) : Option Constant :=
  let text := u.tree.text n
  if isIn u .integerLiteral n then (Literal.int? .java text).map .int
  else
    match u.tree.kind n with
    | "string_literal" | "character_literal" | "text_block" =>
      let value := Literal.unquoted .java text
      if ['"', '"', '"'].isPrefixOf text.toList then some (.str (Text.trim value))
      else some (.str value)
    | "true" => some (.bool true)
    | "false" => some (.bool false)
    | _ => none

/-- The expression for the size in a dimension such as `[16]`. -/
def dimensionSize? (dimension : NodeId) : Option NodeId :=
  (expressionsOf u dimension).find? fun c => !endsIn "annotation" (u.tree.kind c)

/-- The rank that one part of an array creation contributes. -/
def rankOf (part : NodeId) : Nat :=
  match u.tree.kind part with
  | "dimensions_expr" => 1
  | "dimensions" => bracketCount u part
  | _ => 0

/-- The shape of an array creation, or of an array initializer that stands alone. -/
def arrayCreation (n : NodeId) : Expression :=
  if u.tree.kind n = "array_initializer" then
    .arrayCreation [] 1 (some (expressionsOf u n).length)
  else
    let parts := u.tree.namedChildren n
    let sizes := (parts.filter fun c => u.tree.kind c == "dimensions_expr").filterMap
      (dimensionSize? u)
    let initializers := parts.filter fun c => u.tree.kind c == "array_initializer"
    .arrayCreation sizes (parts.foldl (fun rank part => rank + rankOf u part) 0)
      (initializers.getLast?.map fun c => (expressionsOf u c).length)

/-- The shape of an expression that is the value of `inner`, if that is there. -/
def wrapped (inner : Option NodeId) : Expression := (inner.map Expression.wrapped).getD .unknown

/-- The shape of an identifier. -/
def identifierExpression (n : NodeId) : Expression :=
  match resolveIdentifier? u n with
  | none => .unknown
  | some symbol =>
    if symbol.kind = .enumConstant then
      match enclosingType? u symbol.declaration with
      | some declaration => .enumConstant declaration symbol.declaration
      | none => .unknown
    else .variable symbol

/-- The shape of a field access. -/
def fieldExpression (n : NodeId) : Expression :=
  match enumSelection? u n with
  | some (declaration, constant) => .enumConstant declaration constant
  | none =>
    match u.tree.child? n "object", u.tree.child? n "field" with
    | some object, some field =>
      let name := u.tree.text field
      let symbol :=
        if u.tree.kind object = "this" then thisField? u name n else staticMember? u object name
      match symbol with
      | some symbol => .variable symbol
      | none => .member object name
    | _, _ => .unknown

/-- The shape of a unary expression: a sign in front of an operand. -/
def unaryExpression (n : NodeId) : Expression :=
  match u.tree.child? n "operand" with
  | none => .unknown
  | some operand =>
    match (u.tree.child? n "operator").map u.tree.text, literal? u operand with
    | some "-", some (.int value) => .literal (.int (-value))
    | some "+", _ => .wrapped operand
    | _, _ => .unknown

/-- The shape of an expression. -/
def expression (n : NodeId) : Expression :=
  match literal? u n with
  | some value => .literal value
  | none =>
    match u.tree.kind n with
    | "identifier" => identifierExpression u n
    | "field_access" => fieldExpression u n
    | "method_invocation" => .call (.invocation n)
    | "object_creation_expression" => .call (.construction n)
    | "array_creation_expression" | "array_initializer" => arrayCreation u n
    | "parenthesized_expression" => wrapped (expressionsOf u n).head?
    | "cast_expression" => wrapped (u.tree.child? n "value")
    | "unary_expression" => unaryExpression u n
    | _ => .unknown

/-! ## Sites -/

/-- The site that a node is. -/
def site? (n : NodeId) : Option Site :=
  match u.tree.kind n with
  | "method_invocation" => some (.invocation n)
  | "object_creation_expression" => some (.construction n)
  | "field_access" => (enumSelection? u n).map fun _ => .enumSelection n
  | _ => none

/-- The expressions in the argument list of a node. -/
def argumentsOf (n : NodeId) : List NodeId :=
  match u.tree.child? n "arguments" with
  | some list => expressionsOf u list
  | none => []

/-- The arguments of a site. -/
def arguments : Site → List NodeId
  | .invocation n | .construction n => argumentsOf u n
  | .enumSelection _ => []

/-- What a method is invoked on. -/
def receiver? : Site → Option NodeId
  | .invocation n => u.tree.child? n "object"
  | _ => none

/-- The name of the method that a site invokes. -/
def methodName? : Site → Option String
  | .invocation n => (u.tree.child? n "name").map u.tree.text
  | .construction _ => some constructorName
  | .enumSelection _ => none

/-- The name of the constant that a site selects. -/
def enumConstantName? : Site → Option String
  | .enumSelection n => (u.tree.child? n "field").map u.tree.text
  | _ => none

/-- The name that an expression or type ends in. -/
def identifierText? (n : NodeId) : Option String :=
  match u.tree.kind n with
  | "identifier" | "type_identifier" => some (u.tree.text n)
  | "field_access" => (u.tree.child? n "field").map u.tree.text
  | "method_invocation" => (u.tree.child? n "name").map u.tree.text
  | _ => none

/-! ## Where variables get their values -/

/-- The variable that a declarator declares. -/
def declaredSymbol? (declarator : NodeId) : Option Symbol :=
  (u.tree.child? declarator "name").map fun name =>
    { name := u.tree.text name
      declaration := declarator
      kind :=
        match (u.tree.parent? declarator).map u.tree.kind with
        | some "field_declaration" | some "constant_declaration" => .field
        | _ => .local }

/-- The variable that the left side of an assignment stands for. -/
def assignmentTarget? (left : NodeId) : Option Symbol :=
  match u.tree.kind left with
  | "identifier" => resolveIdentifier? u left
  | "field_access" => do
    let object ← u.tree.child? left "object"
    let field ← u.tree.child? left "field"
    guard (u.tree.kind object == "this")
    thisField? u (u.tree.text field) left
  | _ => none

/-- Whether a node is an assignment that replaces the value of its left side. -/
def isPlainAssignment (n : NodeId) : Bool :=
  u.tree.kind n == "assignment_expression" &&
    (u.tree.child? n "operator").map u.tree.text == some "="

/-- The variable that takes the value of `current`, given the nodes above it. -/
def assignedSymbolFrom? (current : NodeId) : List NodeId → Option Symbol
  | [] => none
  | parent :: above =>
    match u.tree.kind parent with
    | "parenthesized_expression" | "cast_expression" => assignedSymbolFrom? parent above
    | "variable_declarator" =>
      if u.tree.child? parent "value" = some current then declaredSymbol? u parent else none
    | "assignment_expression" =>
      if isPlainAssignment u parent && u.tree.child? parent "right" == some current then
        (u.tree.child? parent "left").bind (assignmentTarget? u)
      else none
    | _ => none

/-- The variable that takes the value of an expression. -/
def assignedSymbol? (n : NodeId) : Option Symbol :=
  assignedSymbolFrom? u n (u.tree.ancestors n)

/-- The expression that a variable is declared with. -/
def initializer? (s : Symbol) : Option NodeId :=
  if u.tree.kind s.declaration = "variable_declarator" then u.tree.child? s.declaration "value"
  else none

/-- The value that a node assigns to the variable, if it does. -/
def valueAssignedTo? (s : Symbol) (n : NodeId) : Option NodeId := do
  guard (isPlainAssignment u n)
  let left ← u.tree.child? n "left"
  let right ← u.tree.child? n "right"
  let target ← assignmentTarget? u left
  guard (target.same s)
  return right

/-- The values that plain assignments give to a variable, in order. -/
def assignments (s : Symbol) : List NodeId :=
  (u.tree.preorder (symbolScope u s)).filterMap (valueAssignedTo? u s)

/-- Whether a node below the body of a method may hold a `return` of that method. -/
def mayReturnInside (n : NodeId) : Bool :=
  let closed := ["lambda_expression", "class_body", "method_declaration", "return_statement"]
  !closed.contains (u.tree.kind n)

/-- The expressions that a method returns. -/
def methodReturns (method : NodeId) : List NodeId :=
  match u.tree.child? method "body" with
  | none => []
  | some body =>
    ((u.tree.preorderWhile (mayReturnInside u) body).filter fun n =>
      u.tree.kind n == "return_statement").filterMap fun n => (expressionsOf u n).head?

/-! ## Enums -/

/-- The arguments that an enum constant passes to its constructor. -/
def enumConstantArguments (constant : NodeId) : List NodeId := argumentsOf u constant

/-- The names of the parameters of each constructor of an enum. -/
def enumConstructorParameters (declaration : NodeId) : List (List String) :=
  ((typeMembers u declaration).filter fun m => u.tree.kind m == "constructor_declaration").map
    fun constructor => (methodParameters u constructor).map (·.name)

/-- The name of an enum constant. -/
def constantName (constant : NodeId) : String :=
  ((u.tree.child? constant "name").map u.tree.text).getD ""

end Java
end CryptoUsage
