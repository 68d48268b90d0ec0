import CryptoUsage.FrontEnd.JavaNames

/-!
# Scopes of Java variables

A name is looked up from the inside out: locals declared earlier in the enclosing blocks, loop and
`catch` variables, lambda and method parameters, fields, enum constants.  `lookup?` is that
search, one case for each kind of node that can declare a name.

## What is here

* Declarations.  For each kind of node, what it declares under a name (`declaredIn?`).  In a block
  the last declaration that starts before the use counts, and nested blocks are not looked into.
  A body of a type declares fields, and that of an enum its constants, too.
* `lookup?` goes through the nodes above the use, nearest first; `resolveIdentifier?` is the same
  for an identifier.
* Members.  A field of `this` is looked for in the nearest type only (`thisField?`), and a member
  of a type of the unit in its own body (`memberOfType?`, `staticMember?`).  A field access
  selects a constant of an enum if the unit declares both and the part before the dot is no
  variable (`enumSelection?`).
* Scopes.  The nearest method around a node, the scope through which next rules are followed, and
  the subtree in which a variable can be used (`symbolScope`).
-/

set_option autoImplicit false

namespace CryptoUsage
namespace Java

variable (u : CompilationUnit)

/-- Whether the child in slot `name` has the given text. -/
def isNamedAs (name : String) (n : NodeId) : Bool :=
  match u.tree.child? n "name" with
  | some c => u.tree.text c == name
  | none => false

/-- The declarator of `name` in a declaration. -/
def declaratorNamed? (name : String) (declaration : NodeId) : Option NodeId :=
  (u.tree.childrenIn declaration "declarator").find? (isNamedAs u name)

/-- The last declaration of `name` among the statements of a block that start before `position`. -/
def localInBlock? (name : String) (block : NodeId) (position : Nat) : Option Symbol :=
  let before := (u.tree.namedChildren block).takeWhile fun statement =>
    (u.tree.location statement).startByte < position
  let declarators := before.filterMap fun statement =>
    if u.tree.kind statement == "local_variable_declaration" then declaratorNamed? u name statement
    else none
  declarators.getLast?.map fun d => ⟨name, d, .local⟩

/-- The node that names a parameter of a method. -/
def parameterName? (parameter : NodeId) : Option NodeId :=
  match u.tree.kind parameter with
  | "formal_parameter" => u.tree.child? parameter "name"
  | "spread_parameter" =>
    ((u.tree.namedChildren parameter).find? fun c => u.tree.kind c == "variable_declarator").bind
      fun d => u.tree.child? d "name"
  | _ => none

/-- The parameters of a method or constructor, in order. -/
def methodParameters (method : NodeId) : List Symbol :=
  match u.tree.child? method "parameters" with
  | none => []
  | some parameters =>
    (u.tree.namedChildren parameters).filterMap fun parameter =>
      (parameterName? u parameter).map fun name => ⟨u.tree.text name, parameter, .parameter⟩

/-- The parameter of a lambda expression with the given name. -/
def lambdaParameter? (name : String) (lambda : NodeId) : Option Symbol := do
  let parameters ← u.tree.child? lambda "parameters"
  let candidates :=
    match u.tree.kind parameters with
    | "identifier" => [parameters]
    | "inferred_parameters" => u.tree.namedChildren parameters
    | _ => (u.tree.namedChildren parameters).filterMap fun p => u.tree.child? p "name"
  let found ← candidates.find? fun n => u.tree.text n == name
  return ⟨name, found, .local⟩

/-- The field that the body of a type declares under a name. -/
def fieldInBody? (name : String) (body : NodeId) : Option Symbol :=
  let fields := (u.tree.namedChildren body).filter fun m =>
    u.tree.kind m == "field_declaration" || u.tree.kind m == "constant_declaration"
  (fields.findSome? (declaratorNamed? u name)).map fun d => ⟨name, d, .field⟩

/-- The enum constant that the body of an enum declares under a name. -/
def enumConstantInBody? (name : String) (body : NodeId) : Option Symbol :=
  ((u.tree.namedChildren body).find? fun c =>
    u.tree.kind c == "enum_constant" && isNamedAs u name c).map fun c => ⟨name, c, .enumConstant⟩

/-- The variable `name` that `scope` declares for a use at byte `position`. -/
def declaredIn? (name : String) (position : Nat) (scope : NodeId) : Option Symbol :=
  match u.tree.kind scope with
  | "block" | "constructor_body" | "switch_block_statement_group" =>
    localInBlock? u name scope position
  | "for_statement" => do
    let start ← u.tree.child? scope "init"
    let declarator ← declaratorNamed? u name start
    return ⟨name, declarator, .local⟩
  | "enhanced_for_statement" =>
    ((u.tree.child? scope "name").filter fun n => u.tree.text n == name).map
      fun n => ⟨name, n, .local⟩
  | "catch_clause" =>
    (((u.tree.namedChildren scope).find? fun c => u.tree.kind c == "catch_formal_parameter").filter
      (isNamedAs u name)).map fun p => ⟨name, p, .local⟩
  | "lambda_expression" => lambdaParameter? u name scope
  | "method_declaration" | "constructor_declaration" | "compact_constructor_declaration" =>
    (methodParameters u scope).find? fun p => p.name == name
  | "class_body" | "interface_body" | "enum_body_declarations" => fieldInBody? u name scope
  | "enum_body" => enumConstantInBody? u name scope
  | _ => none

/-- The variable that a name stands for at a node. -/
def lookup? (name : String) (origin : NodeId) : Option Symbol :=
  (u.tree.ancestors origin).findSome? (declaredIn? u name (u.tree.location origin).startByte)

/-- The variable that an identifier stands for. -/
def resolveIdentifier? (identifier : NodeId) : Option Symbol :=
  lookup? u (u.tree.text identifier) identifier

/-- The parts of an enum's body that hold its members. -/
def enumMemberLists (body : NodeId) : List NodeId :=
  (u.tree.namedChildren body).filter fun c => u.tree.kind c == "enum_body_declarations"

/-- The field or enum constant that a type itself declares under a name. -/
def memberOfType? (name : String) (declaration : NodeId) : Option Symbol := do
  let body ← u.tree.child? declaration "body"
  if u.tree.kind body == "enum_body" then
    (enumConstantInBody? u name body).orElse fun _ =>
      (enumMemberLists u body).findSome? (fieldInBody? u name)
  else fieldInBody? u name body

/-- The members in the body of a type. -/
def typeMembers (declaration : NodeId) : List NodeId :=
  match u.tree.child? declaration "body" with
  | none => []
  | some body =>
    if u.tree.kind body == "enum_body" then (enumMemberLists u body).flatMap u.tree.namedChildren
    else u.tree.namedChildren body

/-- The field `this.name` at a node. -/
def thisField? (name : String) (origin : NodeId) : Option Symbol :=
  (enclosingType? u origin).bind (memberOfType? u name)

/-- The enum and the constant that a field access such as `Algo.AES` selects, if the unit declares
them and the part before the dot is no variable. -/
def enumSelection? (n : NodeId) : Option (NodeId × NodeId) := do
  guard (u.tree.kind n == "field_access")
  let object ← u.tree.child? n "object"
  let field ← u.tree.child? n "field"
  guard (u.tree.kind object == "identifier" || u.tree.kind object == "field_access")
  guard !(u.tree.kind object == "identifier" && (resolveIdentifier? u object).isSome)
  let declaration ← enumNamed? u (u.tree.text object)
  let body ← u.tree.child? declaration "body"
  let constant ← enumConstantInBody? u (u.tree.text field) body
  return (declaration, constant.declaration)

/-- The member that `Type.field` names, if the unit declares the type. -/
def staticMember? (object : NodeId) (field : String) : Option Symbol := do
  guard (u.tree.kind object == "identifier" && (resolveIdentifier? u object).isNone)
  let declaration ← typeNamed? u (u.tree.text object)
  memberOfType? u field declaration

/-- The nearest method or constructor above a node. -/
def enclosingMethod? (n : NodeId) : Option NodeId :=
  (u.tree.ancestors n).find? (isIn u .functionDeclaration)

/-- The nearest method above a node, or else the nearest type, or else the whole unit. -/
def enclosingScope (n : NodeId) : NodeId :=
  ((enclosingMethod? u n).orElse fun _ => enclosingType? u n).getD SyntaxTree.root

/-- The subtree in which a variable can be used. -/
def symbolScope (s : Symbol) : NodeId :=
  match s.kind with
  | .local => enclosingScope u s.declaration
  | .parameter => (enclosingMethod? u s.declaration).getD SyntaxTree.root
  | .field | .enumConstant => (enclosingType? u s.declaration).getD SyntaxTree.root

end Java
end CryptoUsage
