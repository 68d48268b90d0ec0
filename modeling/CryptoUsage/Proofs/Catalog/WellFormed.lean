import CryptoUsage.Catalog.Authoring
import Mathlib.Logic.Basic

/-!
# Which specifications are rules

An author writes a rule as a sequence of clauses, and the clauses add up to a specification.  It
is well formed when every condition in `RuleSpec.IsWellFormed` holds.  The conditions have an
order, and `RuleSpec.FirstFault` says which of them is the first to fail, and with which error.

The two leave no room between them: a specification builds exactly if it is well formed
(`build_eq_ok_iff`), and any other is refused with its first fault (`build_eq_error_iff`).  What
is built says what was written, in the order in which it was written (`Rule.IsAsWritten`), so the
main statement, `rules_build_when_well_formed`, speaks of any sequence of clauses.

## What is here

* Building is a sequence of checks, each of which may end it.  `bind_eq_ok_iff` and
  `bind_eq_error_iff` take one step off such a sequence.
* Candidates and parameter types, each with the condition, the fault, and an equivalence for
  either outcome (`Selector.ofList_eq_ok_iff`, `Selector.ofList_eq_error_iff`, and the same for
  `ParameterTypes.ofList`).
* Specifications: arguments, redirects and the matcher are looked at in this order (`build_eq`),
  and the two theorems above follow case by case.
* Clauses add up (`addsUp_ofClauses`): every list of a specification has what the clauses give to
  it, in their order.  It is one lemma for all lists (`foldl_add_eq`).
-/

set_option autoImplicit false

namespace CryptoUsage

/-! ## One step after another -/

section Steps

variable {α β : Type} {x : Except RuleError α} {f : α → Except RuleError β}

theorem bind_eq_ok_iff {b : β} : (x >>= f) = .ok b ↔ ∃ a, x = .ok a ∧ f a = .ok b := by
  cases x with
  | error e => exact ⟨nofun, nofun⟩
  | ok a => exact ⟨fun h => ⟨a, rfl, h⟩, fun ⟨_, heq, h⟩ => by cases heq; exact h⟩

theorem bind_eq_error_iff {error : RuleError} :
    (x >>= f) = .error error ↔ x = .error error ∨ ∃ a, x = .ok a ∧ f a = .error error := by
  cases x with
  | error e =>
    refine ⟨fun h => .inl (congrArg _ (Except.error.inj h)), ?_⟩
    rintro (h | ⟨_, heq, -⟩)
    · exact congrArg _ (Except.error.inj h)
    · cases heq
  | ok a =>
    refine ⟨fun h => .inr ⟨a, rfl, h⟩, ?_⟩
    rintro (h | ⟨_, heq, h⟩)
    · cases h
    · cases heq
      exact h

end Steps

/-! ## Candidates -/

/-- There are candidates, and the wildcard is none of several. -/
def IsCandidates (values : List String) : Prop :=
  values ≠ [] ∧ (anything ∈ values → values = [anything])

instance (values : List String) : Decidable (IsCandidates values) :=
  inferInstanceAs (Decidable (_ ∧ _))

/-- What is wrong with the candidates of a group. -/
inductive IsCandidateFault (group : String) (values : List String) : RuleError → Prop
  | missing (empty : values = []) : IsCandidateFault group values (.emptySelector group)
  | mixed (wild : anything ∈ values) (others : values ≠ [anything]) :
    IsCandidateFault group values (.wildcardCombined group)

theorem IsCandidateFault.not_isCandidates {group : String} {values : List String}
    {error : RuleError} (h : IsCandidateFault group values error) : ¬ IsCandidates values :=
  match h with
  | .missing hempty => fun hcandidates => hcandidates.1 hempty
  | .mixed hwild hothers => fun hcandidates => hothers (hcandidates.2 hwild)

/-- A selector selects by a list: the candidates of the list in their order, or everything if the
list is the wildcard. -/
def Selector.IsFor : Selector → List String → Prop
  | any, values => values = [anything]
  | oneOf candidates, values => candidates = values ∧ anything ∉ candidates

section Candidates

variable {group : String} {values : List String} {error : RuleError}

/-- The wildcard stands beside something exactly if it is not the only value. -/
theorem one_lt_length_iff (h : anything ∈ values) : 1 < values.length ↔ values ≠ [anything] := by
  match values with
  | [] => cases h
  | [value] =>
    rw [List.mem_singleton] at h
    simp [h]
  | _ :: _ :: _ => simp

theorem Selector.ofList_eq_ok_iff {selector : Selector} :
    Selector.ofList group values = .ok selector ↔
      IsCandidates values ∧ selector.IsFor values := by
  rw [Selector.ofList, IsCandidates]
  by_cases hempty : values = []
  · simp [hempty]
  by_cases hwild : anything ∈ values
  · by_cases hothers : values = [anything]
    · cases selector with
      | any => simp [hothers, IsFor]
      | oneOf candidates =>
        have hne : ¬ (candidates = [anything] ∧ anything ∉ candidates) := fun h =>
          h.2 (by simp [h.1])
        simpa [hothers, IsFor] using hne
    · simp [hempty, hwild, hothers, (one_lt_length_iff hwild).mpr hothers]
  · cases selector with
    | any =>
      have hne : values ≠ [anything] := fun h => hwild (by simp [h])
      simp [hempty, hwild, hne, IsFor]
    | oneOf candidates =>
      simp only [List.isEmpty_iff, hempty, if_false, List.contains_iff_mem, hwild, IsFor,
        Except.ok.injEq, oneOf.injEq]
      refine ⟨fun h => ⟨⟨hempty, nofun⟩, h.symm, h ▸ hwild⟩, fun h => h.2.1.symm⟩

theorem Selector.ofList_eq_error_iff :
    Selector.ofList group values = .error error ↔ IsCandidateFault group values error := by
  rw [Selector.ofList]
  by_cases hempty : values = []
  · rw [if_pos (List.isEmpty_iff.mpr hempty), Except.error.injEq]
    constructor
    · rintro rfl
      exact .missing hempty
    · rintro (_ | ⟨hwild, -⟩)
      · rfl
      · rw [hempty] at hwild
        cases hwild
  rw [if_neg (by simpa using hempty)]
  by_cases hwild : anything ∈ values
  · rw [if_pos (by simpa using hwild)]
    by_cases hothers : values = [anything]
    · rw [if_neg (mt (one_lt_length_iff hwild).mp (not_not.mpr hothers))]
      refine ⟨nofun, ?_⟩
      rintro (h | ⟨-, h⟩)
      · exact absurd h hempty
      · exact absurd hothers h
    · rw [if_pos ((one_lt_length_iff hwild).mpr hothers), Except.error.injEq]
      constructor
      · rintro rfl
        exact .mixed hwild hothers
      · rintro (h | -)
        · exact absurd h hempty
        · rfl
  · rw [if_neg (by simpa using hwild)]
    refine ⟨nofun, ?_⟩
    rintro (h | ⟨h, -⟩)
    · exact absurd h hempty
    · exact absurd h hwild

/-- Candidates always make a selector. -/
theorem Selector.exists_ofList_eq_ok_iff {P : Prop} :
    (∃ selector, Selector.ofList group values = .ok selector ∧ P) ↔ IsCandidates values ∧ P := by
  simp only [ofList_eq_ok_iff]
  constructor
  · rintro ⟨_, ⟨hcandidates, -⟩, h⟩
    exact ⟨hcandidates, h⟩
  · rintro ⟨hcandidates, h⟩
    by_cases hwild : anything ∈ values
    · exact ⟨.any, ⟨hcandidates, hcandidates.2 hwild⟩, h⟩
    · exact ⟨.oneOf values, ⟨hcandidates, rfl, hwild⟩, h⟩

end Candidates

/-! ## Parameter types -/

/-- The wildcard is no type of several. -/
def IsSignature (types : List String) : Prop := anything ∈ types → types.length = 1

instance (types : List String) : Decidable (IsSignature types) :=
  inferInstanceAs (Decidable (_ → _))

section Signatures

variable {types : List String}

theorem not_isSignature_iff : ¬ IsSignature types ↔ 1 < types.length ∧ anything ∈ types := by
  rw [IsSignature, Classical.not_imp, and_comm]
  refine and_congr_left fun hmem => ?_
  have hpos := List.length_pos_of_mem hmem
  omega

theorem ParameterTypes.ofList_eq_ok_iff {parameterTypes : ParameterTypes} :
    ParameterTypes.ofList types = .ok parameterTypes ↔
      IsSignature types ∧ parameterTypes = .exactly types := by
  rw [ParameterTypes.ofList]
  by_cases h : IsSignature types
  · rw [if_neg (by simpa using mt not_isSignature_iff.mpr (not_not.mpr h))]
    simp [h, eq_comm]
  · rw [if_pos (by simpa using not_isSignature_iff.mp h)]
    simp [h]

theorem ParameterTypes.ofList_eq_error_iff {error : RuleError} :
    ParameterTypes.ofList types = .error error ↔
      ¬ IsSignature types ∧ error = .wildcardCombined "parameter types" := by
  rw [ParameterTypes.ofList]
  by_cases h : IsSignature types
  · rw [if_neg (by simpa using mt not_isSignature_iff.mpr (not_not.mpr h))]
    simp [h]
  · rw [if_pos (by simpa using not_isSignature_iff.mp h)]
    simp [h, eq_comm]

end Signatures

/-! ## Specifications -/

namespace RuleSpec

/-- The types of the parameters, in order. -/
def types (spec : RuleSpec) : List String := spec.parameters.map (·.typeName)

/-- The indices under which values are to be moved, in the order of the parameters. -/
def redirects (spec : RuleSpec) : List Int := spec.parameters.filterMap (·.moveUnder)

/-- What makes a specification a rule, in the order in which it is looked at. -/
structure IsWellFormed (spec : RuleSpec) : Prop where
  /-- Arguments that are ignored are not described. -/
  arguments : spec.anyParameters = true → spec.parameters = []
  /-- Values are moved under indices that a child can have. -/
  redirects : ∀ index ∈ spec.redirects, methodLevel ≤ index
  objectTypes : IsCandidates spec.objectTypes
  methodNames : IsCandidates spec.methodNames
  parameterTypes : spec.anyParameters = false → IsSignature spec.types

/-- The first thing that is wrong with a specification. -/
inductive FirstFault (spec : RuleSpec) : RuleError → Prop
  | arguments (ignored : spec.anyParameters = true) (described : spec.parameters ≠ []) :
    FirstFault spec .parametersOnMethodOnlyRule
  | redirect {before after : List Int} {index : Int}
    (arguments : spec.anyParameters = true → spec.parameters = [])
    (split : spec.redirects = before ++ index :: after)
    (earlier : ∀ index ∈ before, methodLevel ≤ index) (below : index < methodLevel) :
    FirstFault spec (.invalidMoveUnder index)
  | objectTypes {error : RuleError}
    (arguments : spec.anyParameters = true → spec.parameters = [])
    (redirects : ∀ index ∈ spec.redirects, methodLevel ≤ index)
    (fault : IsCandidateFault "object types" spec.objectTypes error) : FirstFault spec error
  | methodNames {error : RuleError}
    (arguments : spec.anyParameters = true → spec.parameters = [])
    (redirects : ∀ index ∈ spec.redirects, methodLevel ≤ index)
    (objectTypes : IsCandidates spec.objectTypes)
    (fault : IsCandidateFault "method names" spec.methodNames error) : FirstFault spec error
  | parameterTypes
    (arguments : spec.anyParameters = true → spec.parameters = [])
    (redirects : ∀ index ∈ spec.redirects, methodLevel ≤ index)
    (objectTypes : IsCandidates spec.objectTypes) (methodNames : IsCandidates spec.methodNames)
    (looked : spec.anyParameters = false) (fault : ¬ IsSignature spec.types) :
    FirstFault spec (.wildcardCombined "parameter types")

end RuleSpec

/-- A rule says what was written. -/
structure Rule.IsAsWritten (rule : Rule) (spec : RuleSpec) : Prop where
  kind : rule.kind = if spec.anyParameters then .methodOnly else .full
  objectTypes : rule.matcher.objectTypes.IsFor spec.objectTypes
  methodNames : rule.matcher.methodNames.IsFor spec.methodNames
  parameterTypes : rule.matcher.parameterTypes =
    if spec.anyParameters then .any else .exactly spec.types
  parameters : rule.parameters = spec.parameters
  next : rule.next = spec.next
  action : rule.action = spec.action
  bundle : rule.bundle = spec.bundle.getD defaultBundle
  exactType : rule.exactType = spec.exactType

namespace RuleSpec

variable {spec : RuleSpec} {rule : Rule} {matcher : MethodMatcher} {error : RuleError}

/-- A well-formed specification has no fault. -/
theorem FirstFault.not_isWellFormed (h : spec.FirstFault error) : ¬ spec.IsWellFormed := by
  intro hformed
  cases h with
  | arguments hignored hdescribed => exact hdescribed (hformed.arguments hignored)
  | @redirect before after index _ hsplit _ hbelow =>
    have hmem : index ∈ spec.redirects := by simp [hsplit]
    exact absurd (hformed.redirects index hmem) (Int.not_le.mpr hbelow)
  | objectTypes _ _ hfault => exact hfault.not_isCandidates hformed.objectTypes
  | methodNames _ _ _ hfault => exact hfault.not_isCandidates hformed.methodNames
  | parameterTypes _ _ _ _ hlooked hfault => exact hfault (hformed.parameterTypes hlooked)

theorem invalidMoveUnder?_eq_none_iff :
    spec.invalidMoveUnder? = none ↔ ∀ index ∈ spec.redirects, methodLevel ≤ index := by
  rw [invalidMoveUnder?, List.find?_eq_none, redirects]
  simp only [decide_eq_true_eq, Int.not_lt]

theorem invalidMoveUnder?_eq_some_iff {index : Int} :
    spec.invalidMoveUnder? = some index ↔ ∃ before after,
      spec.redirects = before ++ index :: after ∧ (∀ index ∈ before, methodLevel ≤ index) ∧
        index < methodLevel := by
  rw [invalidMoveUnder?, List.find?_eq_some_iff_append, redirects]
  constructor
  · rintro ⟨hbelow, before, after, hsplit, hearlier⟩
    exact ⟨before, after, hsplit, by simpa using hearlier, by simpa using hbelow⟩
  · rintro ⟨before, after, hsplit, hearlier, hbelow⟩
    exact ⟨by simpa using hbelow, before, after, hsplit, by simpa using hearlier⟩

/-- The matcher of a specification, if its candidates and types are in order. -/
theorem matcher_eq_ok_iff : spec.matcher = .ok matcher ↔
    (IsCandidates spec.objectTypes ∧ matcher.objectTypes.IsFor spec.objectTypes) ∧
      (IsCandidates spec.methodNames ∧ matcher.methodNames.IsFor spec.methodNames) ∧
      (spec.anyParameters = false → IsSignature spec.types) ∧
      matcher.parameterTypes = if spec.anyParameters then .any else .exactly spec.types := by
  obtain ⟨objectTypes, methodNames, parameterTypes⟩ := matcher
  rw [RuleSpec.matcher]
  cases spec.anyParameters with
  | true =>
    simp only [if_true, MethodMatcher.withAnyParameters, bind_eq_ok_iff,
      Selector.ofList_eq_ok_iff, pure, Except.pure, Except.ok.injEq, MethodMatcher.mk.injEq]
    constructor
    · rintro ⟨_, hobjects, _, hnames, rfl, rfl, rfl⟩
      exact ⟨hobjects, hnames, nofun, rfl⟩
    · rintro ⟨hobjects, hnames, -, rfl⟩
      exact ⟨_, hobjects, _, hnames, rfl, rfl, rfl⟩
  | false =>
    simp only [Bool.false_eq_true, if_false, MethodMatcher.ofLists, bind_eq_ok_iff,
      Selector.ofList_eq_ok_iff, ParameterTypes.ofList_eq_ok_iff, pure, Except.pure,
      Except.ok.injEq, MethodMatcher.mk.injEq]
    constructor
    · rintro ⟨_, hobjects, _, hnames, _, ⟨htypes, rfl⟩, rfl, rfl, rfl⟩
      exact ⟨hobjects, hnames, fun _ => htypes, rfl⟩
    · rintro ⟨hobjects, hnames, htypes, rfl⟩
      exact ⟨_, hobjects, _, hnames, _, ⟨htypes trivial, rfl⟩, rfl, rfl, rfl⟩

/-- Why a specification has no matcher. -/
theorem matcher_eq_error_iff : spec.matcher = .error error ↔
    IsCandidateFault "object types" spec.objectTypes error ∨
      IsCandidates spec.objectTypes ∧
        (IsCandidateFault "method names" spec.methodNames error ∨
          IsCandidates spec.methodNames ∧ spec.anyParameters = false ∧
            ¬ IsSignature spec.types ∧ error = .wildcardCombined "parameter types") := by
  rw [RuleSpec.matcher]
  cases spec.anyParameters with
  | true =>
    simp only [if_true, MethodMatcher.withAnyParameters, bind_eq_error_iff,
      Selector.exists_ofList_eq_ok_iff, Selector.ofList_eq_error_iff, pure, Except.pure,
      reduceCtorEq, false_and, and_false, exists_false, or_false]
  | false =>
    simp only [Bool.false_eq_true, if_false, MethodMatcher.ofLists, bind_eq_error_iff,
      Selector.exists_ofList_eq_ok_iff, Selector.ofList_eq_error_iff,
      ParameterTypes.ofList_eq_error_iff, pure, Except.pure, reduceCtorEq, and_false, exists_false,
      or_false, true_and]
    rfl

/-- The rule of a specification with a matcher. -/
def ruleWith (spec : RuleSpec) (matcher : MethodMatcher) : Rule where
  kind := if spec.anyParameters then .methodOnly else .full
  matcher
  parameters := spec.parameters
  next := spec.next
  action := spec.action
  bundle := spec.bundle.getD defaultBundle
  exactType := spec.exactType

/-- Building looks at the arguments, the redirects and the matcher, in this order. -/
theorem build_eq : spec.build =
    if spec.anyParameters = true → spec.parameters = [] then
      match spec.invalidMoveUnder? with
      | some index => .error (.invalidMoveUnder index)
      | none => spec.matcher.map spec.ruleWith
    else .error .parametersOnMethodOnlyRule := by
  have hiff : (spec.anyParameters && !spec.parameters.isEmpty) = true ↔
      ¬ (spec.anyParameters = true → spec.parameters = []) := by simp
  rw [build]
  by_cases h : spec.anyParameters = true → spec.parameters = []
  · rw [if_neg (mt hiff.mp (not_not.mpr h)), if_pos h]
    cases spec.invalidMoveUnder? with
    | some index => rfl
    | none => cases spec.matcher <;> rfl
  · rw [if_pos (hiff.mpr h), if_neg h]
    rfl

/-- **A specification builds exactly if it is well formed**, and what is built is as written. -/
theorem build_eq_ok_iff :
    spec.build = .ok rule ↔ spec.IsWellFormed ∧ rule.IsAsWritten spec := by
  rw [build_eq]
  by_cases harguments : spec.anyParameters = true → spec.parameters = []
  case neg =>
    rw [if_neg harguments]
    exact ⟨nofun, fun h => absurd h.1.arguments harguments⟩
  rw [if_pos harguments]
  cases hredirects : spec.invalidMoveUnder? with
  | some index =>
    refine ⟨nofun, fun h => ?_⟩
    rw [invalidMoveUnder?_eq_none_iff.mpr h.1.redirects] at hredirects
    cases hredirects
  | none =>
    have hredirects := invalidMoveUnder?_eq_none_iff.mp hredirects
    constructor
    · intro h
      cases hmatcher : spec.matcher with
      | error e =>
        rw [hmatcher] at h
        cases h
      | ok matcher =>
        rw [hmatcher] at h
        cases h
        obtain ⟨⟨hobjects, hobjects'⟩, ⟨hnames, hnames'⟩, htypes, htypes'⟩ :=
          matcher_eq_ok_iff.mp hmatcher
        exact ⟨⟨harguments, hredirects, hobjects, hnames, htypes⟩,
          ⟨rfl, hobjects', hnames', htypes', rfl, rfl, rfl, rfl, rfl⟩⟩
    · rintro ⟨hformed, hwritten⟩
      have hmatcher : spec.matcher = .ok rule.matcher :=
        matcher_eq_ok_iff.mpr ⟨⟨hformed.objectTypes, hwritten.objectTypes⟩,
          ⟨hformed.methodNames, hwritten.methodNames⟩, hformed.parameterTypes,
          hwritten.parameterTypes⟩
      obtain ⟨kind, matcher, parameters, next, action, bundle, exactType⟩ := rule
      obtain ⟨rfl, -, -, -, rfl, rfl, rfl, rfl, rfl⟩ := hwritten
      rw [hmatcher]
      rfl

/-- A rule that was built and has parameters looks at arguments. -/
theorem kind_eq_full_of_build (hbuilt : spec.build = .ok rule) (hne : rule.parameters ≠ []) :
    rule.kind = .full := by
  obtain ⟨hformed, hwritten⟩ := build_eq_ok_iff.mp hbuilt
  rw [hwritten.kind, if_neg]
  exact fun hignored => hne (hwritten.parameters.trans (hformed.arguments hignored))

/-- **A specification is refused with its first fault.** -/
theorem build_eq_error_iff : spec.build = .error error ↔ spec.FirstFault error := by
  rw [build_eq]
  by_cases harguments : spec.anyParameters = true → spec.parameters = []
  case neg =>
    rw [if_neg harguments, Except.error.injEq]
    constructor
    · rintro rfl
      exact .arguments (Classical.not_imp.mp harguments).1 (Classical.not_imp.mp harguments).2
    · intro h
      cases h with
      | arguments => rfl
      | redirect h | objectTypes h | methodNames h | parameterTypes h => exact absurd h harguments
  rw [if_pos harguments]
  cases hredirects : spec.invalidMoveUnder? with
  | some index =>
    obtain ⟨before, after, hsplit, hearlier, hbelow⟩ := invalidMoveUnder?_eq_some_iff.mp hredirects
    have hbad : ¬ ∀ index ∈ spec.redirects, methodLevel ≤ index := fun h => by
      rw [invalidMoveUnder?_eq_none_iff.mpr h] at hredirects
      cases hredirects
    rw [Except.error.injEq]
    constructor
    · rintro rfl
      exact .redirect harguments hsplit hearlier hbelow
    · intro h
      cases h with
      | arguments hignored hdescribed => exact absurd (harguments hignored) hdescribed
      | redirect _ hsplit hearlier hbelow =>
        have hfirst := invalidMoveUnder?_eq_some_iff.mpr ⟨_, _, hsplit, hearlier, hbelow⟩
        rw [hredirects, Option.some.injEq] at hfirst
        rw [hfirst]
      | objectTypes _ h | methodNames _ h | parameterTypes _ h => exact absurd h hbad
  | none =>
    have hredirects := invalidMoveUnder?_eq_none_iff.mp hredirects
    have hmap : spec.matcher.map spec.ruleWith = .error error ↔ spec.matcher = .error error := by
      cases spec.matcher with
      | error e => simp [Except.map]
      | ok matcher => exact ⟨nofun, nofun⟩
    rw [hmap, matcher_eq_error_iff]
    constructor
    · rintro (hobjects | ⟨hobjects, hnames | ⟨hnames, hlooked, htypes, rfl⟩⟩)
      · exact .objectTypes harguments hredirects hobjects
      · exact .methodNames harguments hredirects hobjects hnames
      · exact .parameterTypes harguments hredirects hobjects hnames hlooked htypes
    · intro h
      cases h with
      | arguments hignored hdescribed => exact absurd (harguments hignored) hdescribed
      | redirect _ hsplit _ hbelow =>
        exact absurd (hredirects _ (by rw [hsplit]; simp)) (Int.not_le.mpr hbelow)
      | objectTypes _ _ hfault => exact .inl hfault
      | methodNames _ _ hobjects hfault => exact .inr ⟨hobjects, .inl hfault⟩
      | parameterTypes _ _ hobjects hnames hlooked hfault =>
        exact .inr ⟨hobjects, .inr ⟨hnames, hlooked, hfault, rfl⟩⟩

end RuleSpec

/-! ## Clauses -/

namespace RuleClause

/-- The types that a clause adds to the candidates. -/
def givenObjectTypes : RuleClause → List String
  | objectTypes names => names
  | _ => []

/-- The methods that a clause adds to the candidates. -/
def givenMethodNames : RuleClause → List String
  | methodNames names => names
  | construction => [constructorName]
  | _ => []

/-- The parameters that a clause adds. -/
def givenParameters : RuleClause → List Parameter
  | parameter p => [p]
  | _ => []

/-- The next rules that a clause adds. -/
def givenNext : RuleClause → List RuleId
  | next rules => rules
  | _ => []

end RuleClause

/-- A specification has what clauses give, in the order in which they give it. -/
structure RuleSpec.AddsUp (spec : RuleSpec) (clauses : List RuleClause) : Prop where
  objectTypes : spec.objectTypes = clauses.flatMap RuleClause.givenObjectTypes
  methodNames : spec.methodNames = clauses.flatMap RuleClause.givenMethodNames
  parameters : spec.parameters = clauses.flatMap RuleClause.givenParameters
  next : spec.next = clauses.flatMap RuleClause.givenNext
  anyParameters : spec.anyParameters = true ↔ .anyParameters ∈ clauses

namespace RuleSpec

variable {clauses : List RuleClause}

/-- What every clause adds to a list adds up in order. -/
theorem foldl_add_eq {α : Type} {field : RuleSpec → List α} {given : RuleClause → List α}
    (hadd : ∀ spec clause, field (spec.add clause) = field spec ++ given clause)
    (spec : RuleSpec) : field (clauses.foldl add spec) = field spec ++ clauses.flatMap given := by
  induction clauses generalizing spec with
  | nil => simp
  | cons clause clauses ih =>
    rw [List.foldl_cons, ih, hadd, List.flatMap_cons, List.append_assoc]

theorem anyParameters_foldl_add (spec : RuleSpec) :
    (clauses.foldl add spec).anyParameters = true ↔
      spec.anyParameters = true ∨ .anyParameters ∈ clauses := by
  induction clauses generalizing spec with
  | nil => simp
  | cons clause clauses ih =>
    rw [List.foldl_cons, ih, List.mem_cons]
    cases clause <;> simp [add]

theorem addsUp_ofClauses (clauses : List RuleClause) : (ofClauses clauses).AddsUp clauses where
  objectTypes :=
    foldl_add_eq (by rintro spec (_ | _) <;> simp [add, RuleClause.givenObjectTypes]) {}
  methodNames :=
    foldl_add_eq (by rintro spec (_ | _) <;> simp [add, RuleClause.givenMethodNames]) {}
  parameters := foldl_add_eq (by rintro spec (_ | _) <;> simp [add, RuleClause.givenParameters]) {}
  next := foldl_add_eq (by rintro spec (_ | _) <;> simp [add, RuleClause.givenNext]) {}
  anyParameters := (anyParameters_foldl_add {}).trans (by simp)

end RuleSpec

/-- A rule as it is written asks for as many arguments as it has parameters, or for any. -/
theorem Rule.IsAsWritten.arity?_eq {rule : Rule} {spec : RuleSpec} (h : rule.IsAsWritten spec) :
    rule.matcher.arity? =
      match rule.kind with
      | .full => some rule.parameters.length
      | .methodOnly => none := by
  rw [MethodMatcher.arity?, h.parameterTypes, h.kind, h.parameters]
  cases spec.anyParameters with
  | true => rfl
  | false => exact congrArg some (List.length_map _)

/-- **A rule builds exactly if what was written is well formed**, whatever the author wrote and in
whatever order.  Otherwise it is refused with the first of its faults.  The rule that is built has
the candidates, parameters and next rules that were given, in their order; no list of candidates
holds the wildcard, and a rule that looks at arguments asks for one for each of its parameters. -/
theorem rules_build_when_well_formed (clauses : List RuleClause) :
    (RuleSpec.ofClauses clauses).AddsUp clauses ∧
      ((∃ rule, (RuleSpec.ofClauses clauses).build = .ok rule) ↔
        (RuleSpec.ofClauses clauses).IsWellFormed) ∧
      (∀ error, (RuleSpec.ofClauses clauses).build = .error error ↔
        (RuleSpec.ofClauses clauses).FirstFault error) ∧
      ∀ rule, (RuleSpec.ofClauses clauses).build = .ok rule →
        rule.IsAsWritten (RuleSpec.ofClauses clauses) ∧
          rule.matcher.arity? =
            match rule.kind with
            | .full => some rule.parameters.length
            | .methodOnly => none := by
  refine ⟨RuleSpec.addsUp_ofClauses clauses, ⟨?_, fun hformed => ?_⟩,
    fun _ => RuleSpec.build_eq_error_iff, fun rule hbuilt => ?_⟩
  · rintro ⟨rule, hbuilt⟩
    exact (RuleSpec.build_eq_ok_iff.mp hbuilt).1
  · -- what does not build has a first fault, and that is against one of the conditions
    cases hbuild : (RuleSpec.ofClauses clauses).build with
    | ok rule => exact ⟨rule, rfl⟩
    | error e => exact absurd hformed (RuleSpec.build_eq_error_iff.mp hbuild).not_isWellFormed
  · have hwritten := (RuleSpec.build_eq_ok_iff.mp hbuilt).2
    exact ⟨hwritten, hwritten.arity?_eq⟩

/-- Clauses in no particular order: two candidates for the method, and two parameters. -/
def scatteredClauses : List RuleClause :=
  [.parameter { typeName := "int" }, .methodNames ["init"], .objectTypes ["Cipher"],
    .construction, .next [0], .parameter { typeName := "byte[]", moveUnder := some 1 }]

/-- They make a rule for calls with two arguments. -/
theorem scattered_clauses_build :
    ∃ rule, (RuleSpec.ofClauses scatteredClauses).build = .ok rule ∧
      rule.IsAsWritten (RuleSpec.ofClauses scatteredClauses) ∧
      rule.matcher.methodNames = .oneOf ["init", constructorName] ∧
      rule.matcher.arity? = some 2 := by
  obtain ⟨-, hbuilds, -, hrule⟩ := rules_build_when_well_formed scatteredClauses
  obtain ⟨rule, hbuilt⟩ := hbuilds.mpr {
    arguments := nofun
    redirects := by decide
    objectTypes := by decide
    methodNames := by decide
    parameterTypes := fun _ => by decide }
  obtain ⟨hwritten, harity⟩ := hrule rule hbuilt
  have hkind : rule.kind = .full := hwritten.kind
  have hlength : rule.parameters.length = 2 := by rw [hwritten.parameters]; rfl
  refine ⟨rule, hbuilt, hwritten, ?_, by rw [harity, hkind, hlength]⟩
  cases hbuilt
  rfl

/-- The redirect is found before the missing candidates, although it is said last. -/
example : (RuleSpec.ofClauses
    [.parameter { typeName := anything }, .parameter { typeName := "int", moveUnder := some (-2) }]
    ).build = .error (.invalidMoveUnder (-2)) := rfl

end CryptoUsage
