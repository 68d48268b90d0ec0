import CryptoUsage.FrontEnd.Unit

/-!
# Which sites a matcher matches

A method matcher compares the name of a call, the type it acts on and the types of its arguments.
An unknown argument type is no objection; an unknown object type is one.  Enums are matched by
their simple name.

A type is asked for only where the matcher names types, so a question without an answer does no
harm to a matcher that takes any.  `MethodMatcher.answer` is the whole question whether a site
matches, with all that it leads on to, and `MethodMatcher.matches` is what is known of it in the
end.

## What is here

* Types.  `Selector.selectsType` compares the type that a site acts on, and `ParameterTypes.agree`
  the types of its arguments, position by position; how strictly is up to the context.
* `MethodMatcher.matches` is the test that rules and hooks use.  A selection of an enum constant
  is no call, so no method matcher matches it.
* The question behind a match asks for the same things in the same order, with answers in place of
  what is known: the name, then the type on which the site acts, then the arguments, all of whose
  types are asked for if any is.  That the test is what is known of the answer, and that nothing
  is asked for in vain, is proved in the file on type questions.
* `selectsEnum` is the test of the hooks on enums.
-/

set_option autoImplicit false

namespace CryptoUsage

/-- Whether a type is selected, where it is known. -/
def Selector.selectsType (selector : Selector) (type : Option ObjectType) (exact : Bool) : Bool :=
  match selector, type with
  | any, _ => true
  | oneOf candidates, some type => candidates.any fun candidate => type.isA candidate exact
  | oneOf _, none => false

/-- Whether an argument type, where it is known, is the wanted one. -/
def argumentAgrees (wanted : String) (found : Option ObjectType) (exact : Bool) : Bool :=
  wanted == anything || found.all fun type => type.isA wanted exact

/-- Whether arguments of the given types are as asked for, from position `index` on. -/
def argumentsAgreeFrom (context : MatchContext) :
    Nat → List String → List (Option ObjectType) → Bool
  | _, [], [] => true
  | index, wanted :: types, found :: arguments =>
    argumentAgrees wanted found (context.exactParameter index) &&
      argumentsAgreeFrom context (index + 1) types arguments
  | _, _, _ => false

/-- Whether arguments of the given types are as asked for. -/
def ParameterTypes.agree (parameterTypes : ParameterTypes) (arguments : List (Option ObjectType))
    (context : MatchContext) : Bool :=
  match parameterTypes with
  | any => true
  | exactly types => argumentsAgreeFrom context 0 types arguments

/-- Whether a matcher matches a site of a unit. -/
def MethodMatcher.matches (matcher : MethodMatcher) (u : CompilationUnit) (site : Site)
    (context : MatchContext) : Bool :=
  !site.isEnumSelection &&
    ((u.methodName? site).any matcher.methodNames.selects &&
      (matcher.objectTypes.selectsType (u.invokedObjectType? site) context.exactObjectType &&
        matcher.parameterTypes.agree (u.parameterTypes site) context))

/-! ## The question behind a match -/

/-- The answer to the question whether a type is selected.  Where everything is, the type is not
asked for. -/
def Selector.answer (selector : Selector) (type : Answer ObjectType) (exact : Bool) : Answer Bool :=
  match selector, type with
  | any, _ => .known true
  | oneOf _, .endless => .endless
  | selector, type => .known (selector.selectsType type.toOption exact)

/-- The answer to the question whether arguments of the given types are as asked for.  Either all of
the types are asked for or none is. -/
def ParameterTypes.answer (parameterTypes : ParameterTypes) (arguments : List (Answer ObjectType))
    (context : MatchContext) : Answer Bool :=
  match parameterTypes with
  | any => .known true
  | parameterTypes =>
    if arguments.all Answer.ends then
      .known (parameterTypes.agree (arguments.map Answer.toOption) context)
    else .endless

/-- The answer to the question whether a matcher matches a site of a unit.  The name comes first,
then the type on which the site acts, and then the arguments. -/
def MethodMatcher.answer (matcher : MethodMatcher) (u : CompilationUnit) (site : Site)
    (context : MatchContext) : Answer Bool :=
  if !site.isEnumSelection && (u.methodName? site).any matcher.methodNames.selects then
    (matcher.objectTypes.answer (u.invokedObjectTypeOf site) context.exactObjectType).bind
      fun selected =>
        if selected then matcher.parameterTypes.answer (u.parameterTypesOf site) context
        else .known false
  else .known false

/-! ## Enums -/

/-- Whether a site selects a constant of the enum with the given name. -/
def selectsEnum (u : CompilationUnit) (enumName : String) (site : Site) : Bool :=
  site.isEnumSelection &&
    (u.enumClassName? site).any fun name => Text.simpleName name == Text.simpleName enumName

end CryptoUsage
