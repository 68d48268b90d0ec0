import CryptoUsage.Catalog.Matcher
import CryptoUsage.FrontEnd.PythonExpressions
import CryptoUsage.Program.Answer
import CryptoUsage.Program.ObjectType

/-!
# Types of Python expressions

A unit of Python says little about types, so a value takes its type from where it comes from: the
type of `hashlib.sha256(data)` is `hashlib.sha256`, the qualified name of the callee.  Functions and
classes of the unit are qualified with its module name.

The callee of `h.update(x)` is qualified by the type of `h`, which may be known by another callee.
So callees, and with them all types, are stated given the answers to questions for the qualified
names of calls (`calleeOf`), and `qualifiedCalleeWithin` ties the knot as often as it is told to.

A question can come back to itself.  In

    for h in hs:
        h = h.digest()

the variable `h` is known by its assignment, so its type is the name of `h.digest`, which is
qualified by the type of `h`.  Such a question has no answer, and an analysis that asks it does not
return.  `qualifiedCalleeOf` gives `Answer.endless` there.  As many steps are taken as there are
nodes, and one more; that these suffice for every question that has an answer at all is shown in
the theory of type questions (`CompilationUnit.TypesEnd`), together with what the answers are when
nothing is said of steps.

The queries of the analysis (`invokedObjectType?` and the like) give what is known, and of an
endless question nothing is.  So they describe an analysis only of units in which it asks no
endless question.
-/

set_option autoImplicit false

namespace CryptoUsage
namespace Python

variable (u : CompilationUnit)

/-- The qualified path of a name or of a chain of attributes that starts in an import or a
definition of the unit.  Every step goes to a child, so `height` bounds the number of steps. -/
def dottedPathWithin? : Nat → NodeId → Option String
  | 0, _ => none
  | height + 1, n =>
    match u.tree.kind n with
    | "identifier" =>
      let name := u.tree.text n
      if (resolveIdentifier? u n).isSome then none
      else
        (u.imports.get? name).orElse fun _ =>
          ((definitionNamed? u name "function_definition" none).orElse fun _ =>
            definitionNamed? u name "class_definition" none).map
              fun _ => u.moduleName ++ "." ++ name
    | "attribute" => do
      let object ← u.tree.child? n "object"
      let name ← u.tree.child? n "attribute"
      let base ← dottedPathWithin? height object
      return base ++ "." ++ u.tree.text name
    | _ => none

/-- The qualified path of a name or of a chain of attributes. -/
def dottedPath? (n : NodeId) : Option String := dottedPathWithin? u u.tree.size n

/-- The type that a class definition declares. -/
def classType (classNode : NodeId) : ObjectType :=
  let name := ((u.tree.child? classNode "name").map u.tree.text).getD ""
  let bases :=
    match u.tree.child? classNode "superclasses" with
    | some list => u.tree.namedChildren list
    | none => []
  { name := u.moduleName ++ "." ++ name
    supertypes := bases.filterMap (dottedPath? u) }

/-- How many parentheses and variables a value is followed through to find its type. -/
def maxTypeLevels : Nat := 9

/-- The type that goes by the name of a callee. -/
def calleeType (callee : Answer String) : Answer ObjectType :=
  callee.bind fun name => .known { name }

/-- The type of a value. -/
def valueTypeBy (calleeOf : NodeId → Answer String) : Nat → NodeId → Answer ObjectType
  | 0, _ => .unknown
  | levels + 1, n =>
    match u.tree.kind n with
    | "integer" => .known { name := "int" }
    | "float" => .known { name := "float" }
    | "true" | "false" => .known { name := "bool" }
    | "string" | "concatenated_string" =>
      .known { name := if Literal.isBytes (u.tree.text n) then "bytes" else "str" }
    | "call" => calleeType (calleeOf n)
    | "parenthesized_expression" =>
      (Answer.ofOption (u.tree.namedChildren n).head?).bind (valueTypeBy calleeOf levels)
    | "identifier" => do
      let symbol ← resolveIdentifier? u n
      let value ← initializer? u symbol
      if value = n then .unknown else valueTypeBy calleeOf levels value
    | _ => .unknown

/-- The type of a variable: the annotation of a parameter, and otherwise the type of the value in
the assignment by which the variable is known. -/
def declaredTypeBy (calleeOf : NodeId → Answer String) (s : Symbol) : Answer ObjectType :=
  match s.kind with
  | .parameter =>
    .ofOption ((u.tree.child? s.declaration "type").map fun annotation =>
      let name := u.tree.text annotation
      { name := (u.imports.get? name).getD name })
  | .local | .field =>
    (Answer.ofOption (initializer? u s)).bind (valueTypeBy u calleeOf maxTypeLevels)
  | .enumConstant => .unknown

/-- The type on which a function is called by `object.name(…)`. -/
def receiverTypeBy (calleeOf : NodeId → Answer String) (call object : NodeId) :
    Answer ObjectType :=
  let byPath := Answer.ofOption ((dottedPath? u object).map fun name => { name })
  match u.tree.kind object with
  | "identifier" =>
    if u.tree.text object = "self" then .ofOption ((enclosingClass? u call).map (classType u))
    else
      match resolveIdentifier? u object with
      | some symbol => declaredTypeBy u calleeOf symbol
      | none => byPath
  | "attribute" =>
    match expression u object with
    | .variable symbol => declaredTypeBy u calleeOf symbol
    | _ => byPath
  | "call" => calleeType (calleeOf object)
  | _ => .unknown

/-- The type on which a site acts; a function that is called by a name acts on its module. -/
def invokedObjectTypeBy (calleeOf : NodeId → Answer String) : Site → Answer ObjectType
  | .invocation call => do
    let function ← u.tree.child? call "function"
    match u.tree.kind function with
    | "identifier" => do
      let path ← dottedPath? u function
      let (module, _) ← Text.splitQualified? path
      return { name := module }
    | "attribute" =>
      (Answer.ofOption (u.tree.child? function "object")).bind (receiverTypeBy u calleeOf call)
    | _ => .unknown
  | _ => .unknown

/-- The qualified name of what a call calls, given how to ask for those of other calls. -/
def qualifiedCalleeBy (calleeOf : NodeId → Answer String) (call : NodeId) : Answer String := do
  let owner ← invokedObjectTypeBy u calleeOf (.invocation call)
  let name ← methodName? u (.invocation call)
  return owner.name ++ "." ++ name

/-- The qualified name of what a call calls, asking for the names of other calls at most `steps`
times in a row. -/
def qualifiedCalleeWithin : Nat → NodeId → Answer String := Answer.within (qualifiedCalleeBy u)

/-- The answer to the question for the qualified name of what a call calls. -/
def qualifiedCalleeOf (call : NodeId) : Answer String :=
  qualifiedCalleeWithin u (u.tree.size + 1) call

/-- The answer to the question for the type of a variable. -/
def declaredTypeOf (s : Symbol) : Answer ObjectType := declaredTypeBy u (qualifiedCalleeOf u) s

/-- The type of a variable, where it is known. -/
def declaredType? (s : Symbol) : Option ObjectType := (declaredTypeOf u s).toOption

/-- The answer to the question for the type on which a site acts. -/
def invokedObjectTypeOf (site : Site) : Answer ObjectType :=
  invokedObjectTypeBy u (qualifiedCalleeOf u) site

/-- The type on which a site acts, where it is known. -/
def invokedObjectType? (site : Site) : Option ObjectType := (invokedObjectTypeOf u site).toOption

/-- The answer to the question for the type of an argument; only literals have one. -/
def argumentTypeOf (argument : NodeId) : Answer ObjectType :=
  if ["integer", "float", "true", "false", "string", "concatenated_string"].contains
      (u.tree.kind argument) then
    valueTypeBy u (qualifiedCalleeOf u) maxTypeLevels argument
  else .unknown

/-- The answers to the questions for the types of the arguments of a site. -/
def parameterTypesOf (site : Site) : List (Answer ObjectType) :=
  (arguments u site).map (argumentTypeOf u)

/-- The types of the arguments of a site, where they are known. -/
def parameterTypes (site : Site) : List (Option ObjectType) :=
  (parameterTypesOf u site).map Answer.toOption

/-- Whether a call with so many arguments can be a call of the function, given the parameters with
default values. -/
def acceptsArity (function : NodeId) (arity : Nat) : Bool :=
  let parameters := methodParameters u function
  let required := parameters.countP fun p =>
    u.tree.kind p.declaration != "default_parameter" &&
      u.tree.kind p.declaration != "typed_default_parameter"
  required ≤ arity && arity ≤ parameters.length

/-- The class of the unit on which a site acts. -/
def ownerClass? (call object : NodeId) : Option NodeId :=
  if u.tree.kind object = "identifier" ∧ u.tree.text object = "self" then enclosingClass? u call
  else do
    let owner ← invokedObjectType? u (.invocation call)
    let name ← Text.dropPrefix? (u.moduleName ++ ".").toList owner.name.toList
    definitionNamed? u (String.ofList name) "class_definition" none

/-- The function of the unit that a site invokes. -/
def methodDefinition? (site : Site) : Option NodeId :=
  match site with
  | .invocation call => do
    let name ← methodName? u site
    let function ← u.tree.child? call "function"
    let definition ←
      match u.tree.kind function with
      | "identifier" =>
        if u.imports.binds name then none else definitionNamed? u name "function_definition" none
      | "attribute" => do
        let object ← u.tree.child? function "object"
        let owner ← ownerClass? u call object
        definitionNamed? u name "function_definition" (some owner)
      | _ => none
    guard (acceptsArity u definition (arguments u site).length)
    return definition
  | _ => none

/-- The matcher for the calls of a function: a method is looked for on its class, any other function
on the module. -/
def methodMatcher? (function : NodeId) : Option MethodMatcher := do
  let name ← (u.tree.child? function "name").map u.tree.text
  let owner ←
    if isMethod u function then (enclosingClass? u function).map fun c => (classType u c).name
    else some u.moduleName
  return .ofDefinition owner name ((methodParameters u function).map fun _ => anything)

end Python
end CryptoUsage
