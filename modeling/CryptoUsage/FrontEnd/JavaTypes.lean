import CryptoUsage.Catalog.Matcher
import CryptoUsage.FrontEnd.JavaExpressions
import CryptoUsage.Program.Answer

/-!
# Types of Java expressions

The type of an expression is read off the unit where the unit says it: literals, declared variables,
constructions, casts, and calls of methods that the unit defines.

Types, variables and methods depend on each other: `var c = f(x).g();` takes its type from the
method `g`, which is looked up in the type of `f(x)`.  Each of the three is therefore stated on its
own, given the answers to questions about the types of expressions (`declaredTypeBy`,
`receiverTypeBy`, `methodDefinitionBy`, and `expressionTypeBy` for expressions themselves), and
`expressionTypeWithin` ties the knot as often as it is told to.

A question can come back to itself: the type of `c` in `var c = c.f();` is that of `c.f()`, which is
that of a method looked up in the type of `c`.  Such a question has no answer, and an analysis that
asks it does not return.  `expressionTypeOf` gives `Answer.endless` there.  As many steps are taken
as there are nodes, and one more; that these suffice for every question that has an answer at all is
shown in the theory of type questions (`CompilationUnit.TypesEnd`), together with what the answers
are when nothing is said of steps.

The queries of the analysis (`expressionType?` and those that rest on it) give what is known, and of
an endless question nothing is.  So they describe an analysis only of units in which it asks no
endless question.
-/

set_option autoImplicit false

namespace CryptoUsage
namespace Java

variable (u : CompilationUnit)

/-- The type that a type node of the unit stands for. -/
def objectTypeAt (typeNode : NodeId) : ObjectType := objectTypeNamed u (typeText u typeNode)

/-- The type in slot `type` of a node. -/
def typeOfSlot? (n : NodeId) : Option ObjectType := (u.tree.child? n "type").map (objectTypeAt u)

/-- The text of a type followed by the brackets in the `dimensions` of a declaration. -/
def dimensionedType (declaration typeNode : NodeId) : ObjectType :=
  let rank := ((u.tree.child? declaration "dimensions").map (bracketCount u)).getD 0
  objectTypeNamed u (typeText u typeNode ++ brackets rank)

/-- The declared type of a parameter. -/
def parameterType? (parameter : NodeId) : Option ObjectType :=
  match u.tree.kind parameter with
  | "formal_parameter" => (u.tree.child? parameter "type").map (dimensionedType u parameter)
  | "spread_parameter" =>
    ((u.tree.namedChildren parameter).find? fun c =>
      u.tree.kind c != "variable_declarator" && u.tree.kind c != "modifiers").map
        fun typeNode => objectTypeNamed u (typeText u typeNode ++ "[]")
  | _ => none

/-- The type of a variable declared by a declarator or by a loop.  One declared with `var` has the
type of its initializer. -/
def variableTypeBy (typeOf : NodeId → Answer ObjectType) (declaration : NodeId) :
    Answer ObjectType := do
  let holder ← u.tree.parent? declaration
  match u.tree.kind declaration with
  | "variable_declarator" =>
    let typeNode ← u.tree.child? holder "type"
    if typeText u typeNode = "var" then
      let value ← u.tree.child? declaration "value"
      typeOf value
    else .known (dimensionedType u declaration typeNode)
  | "identifier" =>
    if u.tree.kind holder = "enhanced_for_statement" then .ofOption (typeOfSlot? u holder)
    else .unknown
  | _ => .unknown

/-- The declared type of a variable. -/
def declaredTypeBy (typeOf : NodeId → Answer ObjectType) (s : Symbol) : Answer ObjectType :=
  match s.kind with
  | .enumConstant => .ofOption ((enclosingType? u s.declaration).map (declaredObjectType u))
  | .parameter => .ofOption (parameterType? u s.declaration)
  | .local | .field => variableTypeBy u typeOf s.declaration

/-- The node in which a chain of field accesses starts.  Every step goes to a child, so `height`
bounds the number of steps. -/
def leftmostWithin? : Nat → NodeId → Option NodeId
  | 0, _ => none
  | height + 1, n =>
    if u.tree.kind n = "field_access" then (u.tree.child? n "object").bind (leftmostWithin? height)
    else some n

/-- The text of a name such as `javax.crypto.Cipher`, unless it starts in a variable. -/
def qualifiedName? (n : NodeId) : Option String := do
  let leftmost ← leftmostWithin? u u.tree.size n
  guard (u.tree.kind leftmost == "identifier" && (resolveIdentifier? u leftmost).isNone)
  return u.tree.text n

/-- The type of what stands before the dot of a call. -/
def receiverTypeBy (typeOf : NodeId → Answer ObjectType) (object : NodeId) : Answer ObjectType :=
  match u.tree.kind object with
  | "this" => .ofOption ((enclosingType? u object).map (declaredObjectType u))
  | "super" => do
    let owner ← enclosingType? u object
    let superclass ← u.tree.child? owner "superclass"
    let typeNode ← (u.tree.namedChildren superclass).head?
    return objectTypeAt u typeNode
  | "identifier" =>
    match resolveIdentifier? u object with
    | some symbol => declaredTypeBy u typeOf symbol
    | none => .known (objectTypeNamed u (u.tree.text object))
  | "field_access" =>
    match enumSelection? u object with
    | some (declaration, _) => .known (declaredObjectType u declaration)
    | none =>
      match expression u object with
      | .variable symbol => declaredTypeBy u typeOf symbol
      | _ => .ofOption ((qualifiedName? u object).map fun name => { name })
  | _ => typeOf object

/-- The method of a type with the given name and number of parameters. -/
def methodInType? (name : String) (arity : Nat) (owner : NodeId) : Option NodeId :=
  (typeMembers u owner).find? fun m =>
    u.tree.kind m == "method_declaration" && isNamedAs u name m &&
      (methodParameters u m).length == arity

/-- The method of the unit that a site invokes: looked for in the enclosing types if there is no
receiver, and otherwise in the type of the receiver, provided the unit declares just that type. -/
def methodDefinitionBy (typeOf : NodeId → Answer ObjectType) (site : Site) : Answer NodeId :=
  match site with
  | .invocation n => do
    let name ← (u.tree.child? n "name").map u.tree.text
    let arity := (arguments u site).length
    match u.tree.child? n "object" with
    | none =>
      .ofOption (((u.tree.ancestors n).filter (isIn u .typeDeclaration)).findSome?
        (methodInType? u name arity))
    | some object =>
      if u.tree.kind object = "this" then
        .ofOption ((enclosingType? u n).bind (methodInType? u name arity))
      else
        let receiver ← receiverTypeBy u typeOf object
        let owner ← typeNamed? u receiver.name
        if (declaredObjectType u owner).name = receiver.name then
          .ofOption (methodInType? u name arity owner)
        else .unknown
  | _ => .unknown

/-- Whether the text of a node ends in the letter, in either case. -/
def hasSuffixLetter (lower upper : Char) (n : NodeId) : Bool :=
  let last := (u.tree.text n).toList.getLast?
  last == some lower || last == some upper

/-- The type of an array creation. -/
def arrayType? (n : NodeId) : Option ObjectType := do
  let typeNode ← u.tree.child? n "type"
  let rank :=
    match expression u n with
    | .arrayCreation _ rank _ => max rank 1
    | _ => 1
  return { name := qualify u (typeText u typeNode ++ brackets rank) }

/-- The type of an expression, given how to ask for those of others. -/
def expressionTypeBy (typeOf : NodeId → Answer ObjectType) (n : NodeId) : Answer ObjectType :=
  if isIn u .integerLiteral n then
    .known { name := if hasSuffixLetter u 'l' 'L' n then "long" else "int" }
  else if isIn u .floatLiteral n then
    .known { name := if hasSuffixLetter u 'f' 'F' n then "float" else "double" }
  else
    match u.tree.kind n with
    | "string_literal" | "text_block" => .known { name := "java.lang.String" }
    | "character_literal" => .known { name := "char" }
    | "true" | "false" => .known { name := "boolean" }
    | "identifier" => (Answer.ofOption (resolveIdentifier? u n)).bind (declaredTypeBy u typeOf)
    | "this" | "field_access" => receiverTypeBy u typeOf n
    | "object_creation_expression" | "cast_expression" => .ofOption (typeOfSlot? u n)
    | "array_creation_expression" => .ofOption (arrayType? u n)
    | "parenthesized_expression" => (Answer.ofOption (expressionsOf u n).head?).bind typeOf
    | "unary_expression" => (Answer.ofOption (u.tree.child? n "operand")).bind typeOf
    | "ternary_expression" => (Answer.ofOption (u.tree.child? n "consequence")).bind typeOf
    | "method_invocation" =>
      (methodDefinitionBy u typeOf (.invocation n)).bind fun method =>
        .ofOption (typeOfSlot? u method)
    | _ => .unknown

/-- The type of an expression, asking for the types of others at most `steps` times in a row. -/
def expressionTypeWithin : Nat → NodeId → Answer ObjectType := Answer.within (expressionTypeBy u)

/-- The answer to the question for the type of an expression. -/
def expressionTypeOf (n : NodeId) : Answer ObjectType := expressionTypeWithin u (u.tree.size + 1) n

/-- The type of an expression, where it is known. -/
def expressionType? (n : NodeId) : Option ObjectType := (expressionTypeOf u n).toOption

/-- The answer to the question for the declared type of a variable. -/
def declaredTypeOf (s : Symbol) : Answer ObjectType := declaredTypeBy u (expressionTypeOf u) s

/-- The declared type of a variable, where it is known. -/
def declaredType? (s : Symbol) : Option ObjectType := (declaredTypeOf u s).toOption

/-- The answer to the question for the method of the unit that a site invokes. -/
def methodDefinitionOf (site : Site) : Answer NodeId :=
  methodDefinitionBy u (expressionTypeOf u) site

/-- The method of the unit that a site invokes, where it is known. -/
def methodDefinition? (site : Site) : Option NodeId := (methodDefinitionOf u site).toOption

/-- The answer to the question for the type on which a site acts: that of the receiver, the
constructed one, or the enum.  A call without a receiver acts on the enclosing type. -/
def invokedObjectTypeOf : Site → Answer ObjectType
  | .construction n => .ofOption (typeOfSlot? u n)
  | .invocation n =>
    match u.tree.child? n "object" with
    | some object => receiverTypeBy u (expressionTypeOf u) object
    | none => .ofOption ((enclosingType? u n).map (declaredObjectType u))
  | .enumSelection n =>
    .ofOption ((enumSelection? u n).map fun (declaration, _) => declaredObjectType u declaration)

/-- The type on which a site acts, where it is known. -/
def invokedObjectType? (site : Site) : Option ObjectType := (invokedObjectTypeOf u site).toOption

/-- The answers to the questions for the types of the arguments of a site. -/
def parameterTypesOf (site : Site) : List (Answer ObjectType) :=
  (arguments u site).map (expressionTypeOf u)

/-- The types of the arguments of a site, where they are known. -/
def parameterTypes (site : Site) : List (Option ObjectType) :=
  (parameterTypesOf u site).map Answer.toOption

/-- The full name of the enum of which a site selects a constant. -/
def enumClassName? : Site → Option String
  | .enumSelection n =>
    (enumSelection? u n).map fun (declaration, _) => (declaredObjectType u declaration).name
  | _ => none

/-- The matcher for the calls of a method or constructor. -/
def methodMatcher? (method : NodeId) : Option MethodMatcher := do
  let owner ← enclosingType? u method
  let name ←
    match u.tree.kind method with
    | "constructor_declaration" | "compact_constructor_declaration" => some constructorName
    | _ => (u.tree.child? method "name").map u.tree.text
  let types := (methodParameters u method).map fun p =>
    ((declaredType? u p).map (·.name)).getD anything
  return .ofDefinition (declaredObjectType u owner).name name types

end Java
end CryptoUsage
