import CryptoUsage.Catalog.Matcher
import CryptoUsage.Catalog.Value

/-!
# Rules and catalogs

A rule says which calls it is about, what to make of their arguments, and which rules to follow
from there: *next* rules through the scope of a matched call, *depending* rules through an
argument.

Rules refer to each other by their place in a catalog, and that place is their identity: two equal
rules at different places are different rules.  A catalog is built in order, and a rule refers
only to earlier ones (`Catalog.earlier`).  So following references comes to an end.

## What is here

* `Rule` is a finished rule with all that is read of it: the matcher, the parameters with their
  roles and the index to which their values are moved, the next rules, the action, the bundle,
  whether arguments count, and whether the object type is taken exactly.
* `RuleSpec` holds what an author wrote, unchecked.  `RuleSpec.build` makes the checks in the
  order in which a builder makes them, so that it is known which error is reported if several
  things are wrong: parameters of a rule that ignores arguments first, then an index that no child
  can have, then the candidates of the matcher.
* `Rule.matchContext` says how strictly a rule compares types, from its own switch and that of the
  scan, and `Rule.label` is the name by which a rule is shown.
* `Catalog` keeps the order of references as a field, so that no circular catalog can be written
  down, and `Catalog.push?` adds a rule if it keeps that.
-/

set_option autoImplicit false

namespace CryptoUsage

/-- The place of a rule in its catalog. -/
abbrev RuleId := Nat

/-- The index of detections that belong to a matched call as a whole and to no argument of it. -/
def methodLevel : Int := -1

/-- The bundle of rules that name none. -/
def defaultBundle : String := "Default"

/-- What a rule does with an argument. -/
inductive ParameterRole where
  /-- Its type is compared and nothing else. -/
  | typeOnly
  /-- Its value is looked for. -/
  | detectable (factory : ValueFactory)
  /-- Rules are followed from it. -/
  | depending (rules : List RuleId)

/-- A parameter of a rule. -/
structure Parameter where
  typeName : String
  role : ParameterRole := .typeOnly
  /-- Attach values to a new child at this index. -/
  moveUnder : Option Int := none
  /-- Never take a subtype for the type. -/
  exact : Bool := false

/-- The rules that a parameter refers to. -/
def Parameter.references (p : Parameter) : List RuleId :=
  match p.role with
  | .depending rules => rules
  | _ => []

/-- Whether a rule looks at arguments. -/
inductive RuleKind where
  /-- Types, name and arguments are matched. -/
  | full
  /-- Arguments are ignored; only the action is of interest. -/
  | methodOnly
deriving DecidableEq, Repr

/-- A rule. -/
structure Rule where
  kind : RuleKind
  matcher : MethodMatcher
  parameters : List Parameter
  /-- The rules to follow through the scope of a matched call. -/
  next : List RuleId
  action : Option ActionFactory
  bundle : String
  exactType : Bool

namespace Rule

/-- Whether the rule ignores arguments. -/
def isMethodOnly (r : Rule) : Bool := r.kind == .methodOnly

/-- How strictly the rule compares types, given whether subtypes are taken at all. -/
def matchContext (r : Rule) (matchSubtypes : Bool) : MatchContext where
  exactObjectType := r.exactType || !matchSubtypes
  exactParameters := r.parameters.map fun p => p.exact || !matchSubtypes

/-- A short name of the rule for people. -/
def label (r : Rule) : String :=
  let names :=
    match r.matcher.methodNames with
    | .any => anything
    | .oneOf names => "|".intercalate names
  r.bundle ++ ":" ++ names ++ "/" ++ toString r.parameters.length

/-- The rules that a rule refers to. -/
def references (r : Rule) : List RuleId := r.next ++ r.parameters.flatMap Parameter.references

end Rule

/-- What the author of a rule writes down. -/
structure RuleSpec where
  objectTypes : List String := []
  methodNames : List String := []
  parameters : List Parameter := []
  /-- Ignore arguments. -/
  anyParameters : Bool := false
  next : List RuleId := []
  action : Option ActionFactory := none
  bundle : Option String := none
  exactType : Bool := false

namespace RuleSpec

/-- The first index that values are to be moved under and that no child can have. -/
def invalidMoveUnder? (spec : RuleSpec) : Option Int :=
  (spec.parameters.filterMap (·.moveUnder)).find? fun index => decide (index < methodLevel)

/-- The matcher of a specified rule. -/
def matcher (spec : RuleSpec) : Except RuleError MethodMatcher :=
  if spec.anyParameters then MethodMatcher.withAnyParameters spec.objectTypes spec.methodNames
  else
    MethodMatcher.ofLists spec.objectTypes spec.methodNames (spec.parameters.map (·.typeName))

/-- The specified rule, or the first thing that is wrong with it. -/
def build (spec : RuleSpec) : Except RuleError Rule := do
  if spec.anyParameters && !spec.parameters.isEmpty then
    throw .parametersOnMethodOnlyRule
  if let some index := spec.invalidMoveUnder? then
    throw (.invalidMoveUnder index)
  let matcher ← spec.matcher
  return {
    kind := if spec.anyParameters then .methodOnly else .full
    matcher
    parameters := spec.parameters
    next := spec.next
    action := spec.action
    bundle := spec.bundle.getD defaultBundle
    exactType := spec.exactType }

end RuleSpec

/-- Rules in order, each referring to earlier ones only. -/
structure Catalog where
  rules : Array Rule := #[]
  earlier : ∀ i : Fin rules.size, ∀ j ∈ rules[i].references, j < i.val := by decide

namespace Catalog

/-- The number of rules. -/
def size (catalog : Catalog) : Nat := catalog.rules.size

/-- The rule at a place. -/
def rule? (catalog : Catalog) (id : RuleId) : Option Rule := catalog.rules[id]?

/-- The label of the rule at a place. -/
def label (catalog : Catalog) (id : RuleId) : String := ((catalog.rule? id).map Rule.label).getD ""

/-- The bundle of the rule at a place. -/
def bundle (catalog : Catalog) (id : RuleId) : String := ((catalog.rule? id).map (·.bundle)).getD ""

/-- The catalog with one more rule at the end, if that refers to rules already there. -/
def push? (catalog : Catalog) (r : Rule) : Option Catalog :=
  if h : ∀ j ∈ r.references, j < catalog.size then
    some {
      rules := catalog.rules.push r
      earlier := by
        intro i j hj
        rw [Fin.getElem_fin, Array.getElem_push] at hj
        split at hj
        · next hi => exact catalog.earlier ⟨i.val, hi⟩ j hj
        · next hi => exact Nat.lt_of_lt_of_le (h j hj) (Nat.le_of_not_lt hi) }
  else none

theorem lt_of_mem_references {catalog : Catalog} {i j : RuleId} {r : Rule}
    (h : catalog.rule? i = some r) (hj : j ∈ r.references) : j < i := by
  obtain ⟨hi, hget⟩ := Array.getElem?_eq_some_iff.mp h
  exact catalog.earlier ⟨i, hi⟩ j (by rw [Fin.getElem_fin, hget]; exact hj)

end Catalog

end CryptoUsage
