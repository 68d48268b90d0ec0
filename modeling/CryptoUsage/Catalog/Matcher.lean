/-!
# What a rule asks of a site

A matcher names object types, method names and parameter types.  Each is a list of candidates, or
the wildcard `*`, which stands alone: a list that mixes it with candidates says two things at once
and is refused, and so is an empty list of object types or method names, which nothing could
match.

How strictly types are compared depends on the occasion and is said by a `MatchContext`.

## What is here

* `Selector.ofList` and `ParameterTypes.ofList` check the lists that an author gives and turn them
  into what a matcher holds; a refusal names the group of candidates that is wrong.  `RuleError`
  has all refusals of rules, and `RuleError.message` their wording.
* `MatchContext` says whether a hook is comparing, whether object types are taken exactly, and at
  which positions argument types are.
* `MethodMatcher` is what a rule asks of a call.  It is made in three ways: from lists that are
  checked, with any parameters, or from a method definition (`ofDefinition`), whose parameter
  types may be unknown, so that no list of it is refused.

Comparing a matcher with a site is another matter, for which the unit has to be asked: that is the
file on matching.
-/

set_option autoImplicit false

namespace CryptoUsage

/-- The wildcard. -/
def anything : String := "*"

/-- What can be wrong with a rule. -/
inductive RuleError where
  /-- The wildcard stands beside other candidates. -/
  | wildcardCombined (group : String)
  /-- There are no candidates. -/
  | emptySelector (group : String)
  /-- A rule that ignores arguments declares parameters. -/
  | parametersOnMethodOnlyRule
  /-- Values are to be moved under an index that no child can have. -/
  | invalidMoveUnder (index : Int)
deriving DecidableEq, Repr

/-- The wording of a rule error. -/
def RuleError.message : RuleError → String
  | wildcardCombined group => "wildcard cannot be combined with other values in " ++ group
  | emptySelector group => "no candidate values supplied for " ++ group
  | parametersOnMethodOnlyRule => "method-only rules cannot declare parameters"
  | invalidMoveUnder index => "invalid move-under target index " ++ toString index

/-- A set of candidates, or everything. -/
inductive Selector where
  | any
  | oneOf (candidates : List String)
deriving DecidableEq, Repr

namespace Selector

/-- The selector for a list of candidates; `group` says in an error what they are. -/
def ofList (group : String) (values : List String) : Except RuleError Selector :=
  if values.isEmpty then .error (.emptySelector group)
  else if values.contains anything then
    if 1 < values.length then .error (.wildcardCombined group) else .ok any
  else .ok (oneOf values)

/-- Whether a value is selected. -/
def selects : Selector → String → Bool
  | any, _ => true
  | oneOf candidates, value => candidates.contains value

end Selector

/-- The positional parameter types a matcher asks for. -/
inductive ParameterTypes where
  /-- Any number of arguments of any types. -/
  | any
  /-- As many arguments as types, each of the type at its position. -/
  | exactly (types : List String)
deriving DecidableEq, Repr

/-- The parameter types for a list of names.  Without any it asks for a call without arguments. -/
def ParameterTypes.ofList (types : List String) : Except RuleError ParameterTypes :=
  if 1 < types.length ∧ types.contains anything then .error (.wildcardCombined "parameter types")
  else .ok (.exactly types)

/-- How strictly types are compared.  On behalf of a hook they are always compared exactly. -/
structure MatchContext where
  hookContext : Bool := false
  exactObjectType : Bool := false
  /-- By position; later positions are not exact. -/
  exactParameters : List Bool := []
deriving DecidableEq, Repr

namespace MatchContext

/-- The context in which hooks look for the calls they wait for. -/
def forHook : MatchContext := { hookContext := true, exactObjectType := true }

/-- Whether the argument at a position must have exactly the type asked for. -/
def exactParameter (context : MatchContext) (index : Nat) : Bool :=
  context.hookContext || context.exactParameters.getD index false

end MatchContext

/-- The calls a rule or a hook is about. -/
structure MethodMatcher where
  objectTypes : Selector
  methodNames : Selector
  parameterTypes : ParameterTypes
deriving DecidableEq, Repr

namespace MethodMatcher

/-- The matcher with the given lists of candidates. -/
def ofLists (objectTypes methodNames parameterTypes : List String) :
    Except RuleError MethodMatcher := do
  return {
    objectTypes := ← Selector.ofList "object types" objectTypes
    methodNames := ← Selector.ofList "method names" methodNames
    parameterTypes := ← ParameterTypes.ofList parameterTypes }

/-- The matcher with the given candidates that takes any arguments. -/
def withAnyParameters (objectTypes methodNames : List String) : Except RuleError MethodMatcher := do
  return {
    objectTypes := ← Selector.ofList "object types" objectTypes
    methodNames := ← Selector.ofList "method names" methodNames
    parameterTypes := .any }

/-- The matcher for the calls of one method definition.  A parameter without a declared type may be
anything, so here wildcards stand beside types. -/
def ofDefinition (objectType methodName : String) (parameterTypes : List String) :
    MethodMatcher where
  objectTypes := .oneOf [objectType]
  methodNames := .oneOf [methodName]
  parameterTypes := .exactly parameterTypes

/-- The number of arguments asked for, if it is fixed. -/
def arity? (matcher : MethodMatcher) : Option Nat :=
  match matcher.parameterTypes with
  | .any => none
  | .exactly types => some types.length

end MethodMatcher

end CryptoUsage
