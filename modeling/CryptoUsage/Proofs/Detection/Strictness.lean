import CryptoUsage.Proofs.Catalog.WellFormed
import CryptoUsage.Proofs.FrontEnd.Dispatch

/-!
# How strictly a matcher takes types

A matcher compares three things at a call: its name, the type it acts on, and the types of its
arguments.  How many arguments there are is never negotiable.  How types are compared is said by
the context, and there is an order in it: the more places ask for the exact type, the fewer calls
match (`MethodMatcher.matches_of_isLooserThan`).

At the strict end, where every place that the matcher looks at asks for the exact type
(`MatchContext.IsExactFor`), only the names of types count, and two calls that look alike but for
what their types extend are the same to the matcher (`MethodMatcher.matches_eq_of_looksLike`).
Hooks always match there, and so does every rule when subtypes are not taken at all.

## How it goes

* Looser and stricter.  A type that agrees exactly agrees loosely (`ObjectType.isA_of_imp`); from
  there the order goes through selectors and single arguments to lists of them, which is an
  induction along the positions.  `MethodMatcher.matches_iff` lists what a matcher asks of a call,
  so that the parts can be put together.
* Where only names count.  The same way once more, with equality for implication: exactly
  compared, a type is its name.
* Rules.  A rule that was built has a matcher and parameters for the same number of arguments, so
  where it matches it finds an argument for each of its parameters.
-/

set_option autoImplicit false

namespace CryptoUsage

variable {u v : CompilationUnit} {site other : Site} {matcher : MethodMatcher}
  {context loose strict : MatchContext}

/-! ## Contexts -/

namespace MatchContext

/-- A context asks for the exact type at no more places than another. -/
structure IsLooserThan (loose strict : MatchContext) : Prop where
  objectType : loose.exactObjectType = true → strict.exactObjectType = true
  parameter : ∀ index, loose.exactParameter index = true → strict.exactParameter index = true

/-- A context asks for the exact type wherever a matcher looks at one. -/
structure IsExactFor (context : MatchContext) (matcher : MethodMatcher) : Prop where
  objectType : context.exactObjectType = true
  parameter : ∀ arity ∈ matcher.arity?, ∀ index < arity, context.exactParameter index = true

theorem isExactFor_forHook (matcher : MethodMatcher) : forHook.IsExactFor matcher :=
  ⟨rfl, fun _ _ _ _ => rfl⟩

end MatchContext

/-- Without subtypes a rule matches calls strictly. -/
theorem Rule.IsAsWritten.isExactFor {rule : Rule} {spec : RuleSpec} (h : rule.IsAsWritten spec) :
    (rule.matchContext false).IsExactFor rule.matcher where
  objectType := by simp [Rule.matchContext]
  parameter := by
    intro arity harity index hindex
    have hlength : index < rule.parameters.length := by
      rw [h.arity?_eq] at harity
      cases hkind : rule.kind with
      | full =>
        rw [hkind] at harity
        cases harity
        exact hindex
      | methodOnly =>
        rw [hkind] at harity
        cases harity
    simp [MatchContext.exactParameter, Rule.matchContext, hlength]

/-! ## Looser and stricter -/

theorem ObjectType.isA_of_imp {type : ObjectType} {candidate : String} {loose strict : Bool}
    (hexact : loose = true → strict = true) (h : type.isA candidate strict = true) :
    type.isA candidate loose = true := by
  cases strict with
  | true => exact isA_of_exact h
  | false =>
    rw [Bool.eq_false_iff.mpr (mt hexact Bool.false_ne_true)]
    exact h

theorem Selector.selectsType_of_imp {selector : Selector} {type : Option ObjectType}
    {loose strict : Bool} (hexact : loose = true → strict = true)
    (h : selector.selectsType type strict = true) : selector.selectsType type loose = true := by
  match selector, type with
  | any, _ => rfl
  | oneOf _, none => cases h
  | oneOf candidates, some type =>
    obtain ⟨candidate, hmem, hcandidate⟩ := List.any_eq_true.mp h
    exact List.any_eq_true.mpr ⟨candidate, hmem, ObjectType.isA_of_imp hexact hcandidate⟩

theorem argumentAgrees_of_imp {wanted : String} {found : Option ObjectType} {loose strict : Bool}
    (hexact : loose = true → strict = true) (h : argumentAgrees wanted found strict = true) :
    argumentAgrees wanted found loose = true := by
  rw [argumentAgrees, Bool.or_eq_true] at h ⊢
  refine h.imp_right fun h => ?_
  cases found with
  | none => rfl
  | some type => exact ObjectType.isA_of_imp hexact h

theorem argumentsAgreeFrom_of_isLooserThan (hlooser : loose.IsLooserThan strict) {index : Nat}
    {types : List String} {arguments : List (Option ObjectType)}
    (h : argumentsAgreeFrom strict index types arguments = true) :
    argumentsAgreeFrom loose index types arguments = true := by
  fun_induction argumentsAgreeFrom strict index types arguments with
  | case1 => rfl
  | case2 index wanted types found arguments ih =>
    obtain ⟨hfirst, hrest⟩ := Bool.and_eq_true_iff.mp h
    exact Bool.and_eq_true_iff.mpr
      ⟨argumentAgrees_of_imp (hlooser.parameter index) hfirst, ih hrest⟩
  | case3 => cases h

/-- What a matcher asks of a call, one thing after another. -/
theorem MethodMatcher.matches_iff : matcher.matches u site context = true ↔
    site.isEnumSelection = false ∧ (u.methodName? site).any matcher.methodNames.selects = true ∧
      matcher.objectTypes.selectsType (u.invokedObjectType? site) context.exactObjectType = true ∧
      matcher.parameterTypes.agree (u.parameterTypes site) context = true := by
  simp only [MethodMatcher.matches, Bool.and_eq_true, Bool.not_eq_true']

/-- **What matches strictly matches loosely.** -/
theorem MethodMatcher.matches_of_isLooserThan (hlooser : loose.IsLooserThan strict)
    (h : matcher.matches u site strict = true) : matcher.matches u site loose = true := by
  obtain ⟨hsite, hname, hobject, harguments⟩ := matches_iff.mp h
  refine matches_iff.mpr ⟨hsite, hname, ?_, ?_⟩
  · exact Selector.selectsType_of_imp hlooser.objectType hobject
  · cases htypes : matcher.parameterTypes with
    | any => rfl
    | exactly types =>
      rw [htypes] at harguments
      exact argumentsAgreeFrom_of_isLooserThan hlooser harguments

/-! ## Where only names count -/

/-- Types that may be unknown have the same names. -/
def HaveSameNames (types others : List (Option ObjectType)) : Prop :=
  types.map (·.map (·.name)) = others.map (·.map (·.name))

/-- Two calls look alike but for what their types extend. -/
structure LooksLike (u : CompilationUnit) (site : Site) (v : CompilationUnit) (other : Site) :
    Prop where
  isEnumSelection : site.isEnumSelection = other.isEnumSelection
  methodName : u.methodName? site = v.methodName? other
  objectType : (u.invokedObjectType? site).map (·.name) = (v.invokedObjectType? other).map (·.name)
  arguments : HaveSameNames (u.parameterTypes site) (v.parameterTypes other)

theorem ObjectType.isA_exactly_congr {type another : ObjectType} (h : type.name = another.name)
    (candidate : String) : type.isA candidate true = another.isA candidate true := by
  simp only [isA, h, Bool.not_true, Bool.false_and]

theorem Selector.selectsType_exactly_congr {type another : Option ObjectType}
    (h : type.map (·.name) = another.map (·.name)) (selector : Selector) :
    selector.selectsType type true = selector.selectsType another true := by
  match selector, type, another with
  | any, _, _ => rfl
  | oneOf _, none, none => rfl
  | oneOf candidates, some type, some another =>
    simp only [selectsType, ObjectType.isA_exactly_congr (Option.some.inj h)]

theorem argumentAgrees_exactly_congr {found another : Option ObjectType}
    (h : found.map (·.name) = another.map (·.name)) (wanted : String) :
    argumentAgrees wanted found true = argumentAgrees wanted another true := by
  match found, another with
  | none, none => rfl
  | some type, some another =>
    simp only [argumentAgrees, Option.all_some, ObjectType.isA_exactly_congr (Option.some.inj h)]

theorem argumentsAgreeFrom_exactly_congr {index : Nat} {types : List String}
    {arguments others : List (Option ObjectType)} (hsame : HaveSameNames arguments others)
    (hexact : ∀ i < types.length, context.exactParameter (index + i) = true) :
    argumentsAgreeFrom context index types arguments =
      argumentsAgreeFrom context index types others := by
  induction types generalizing index arguments others with
  | nil =>
    match arguments, others with
    | [], [] => rfl
    | _ :: _, _ :: _ => rfl
  | cons wanted types ih =>
    match arguments, others with
    | [], [] => rfl
    | found :: arguments, another :: others =>
      obtain ⟨hfirst, hrest⟩ := List.cons.inj hsame
      have hhere : context.exactParameter index = true := hexact 0 (Nat.succ_pos _)
      rw [argumentsAgreeFrom, argumentsAgreeFrom, hhere, argumentAgrees_exactly_congr hfirst,
        ih hrest fun i hi => ?_]
      have hplace : index + 1 + i = index + (i + 1) := by omega
      rw [hplace]
      exact hexact (i + 1) (Nat.succ_lt_succ hi)

/-- **To a matcher that takes every type exactly, calls that look alike are the same.** -/
theorem MethodMatcher.matches_eq_of_looksLike (hexact : context.IsExactFor matcher)
    (h : LooksLike u site v other) :
    matcher.matches u site context = matcher.matches v other context := by
  have harguments : matcher.parameterTypes.agree (u.parameterTypes site) context =
      matcher.parameterTypes.agree (v.parameterTypes other) context := by
    cases htypes : matcher.parameterTypes with
    | any => rfl
    | exactly types =>
      have harity : matcher.arity? = some types.length := by rw [MethodMatcher.arity?, htypes]
      refine argumentsAgreeFrom_exactly_congr h.arguments fun i hi => ?_
      rw [Nat.zero_add]
      exact hexact.parameter _ harity i hi
  rw [MethodMatcher.matches, MethodMatcher.matches, h.isEnumSelection, h.methodName,
    hexact.objectType, Selector.selectsType_exactly_congr h.objectType, harguments]

/-! ## All together -/

/-- A rule that matches a call finds an argument for each of its parameters. -/
theorem Rule.lt_length_arguments {rule : Rule} {spec : RuleSpec} (hbuilt : spec.build = .ok rule)
    (h : rule.matcher.matches u site context = true) {index : Nat}
    (hindex : index < rule.parameters.length) : index < (u.arguments site).length := by
  have hfull : rule.kind = .full :=
    RuleSpec.kind_eq_full_of_build hbuilt (List.ne_nil_of_length_pos (Nat.zero_lt_of_lt hindex))
  have harity : rule.matcher.arity? = some rule.parameters.length := by
    rw [(RuleSpec.build_eq_ok_iff.mp hbuilt).2.arity?_eq, hfull]
  rwa [← u.length_parameterTypes, MethodMatcher.length_eq_of_matches h harity]

/-- **Matching is exact in the number of arguments and monotone in strictness.**  A matcher matches
no call with another number of arguments than it asks for, and no selection of a constant.  What it
matches it also matches under any looser context.  Where every type is compared exactly, as on
behalf of hooks and by any rule when subtypes are not taken, only the names of types count.  And
where the matcher of a rule matches, every parameter of the rule has its argument. -/
theorem matching_is_monotone (matcher : MethodMatcher) (u : CompilationUnit) (site : Site) :
    (∀ arity context, matcher.arity? = some arity → (u.arguments site).length ≠ arity →
      matcher.matches u site context = false) ∧
    (site.isEnumSelection = true → ∀ context, matcher.matches u site context = false) ∧
    (∀ loose strict : MatchContext, loose.IsLooserThan strict →
      matcher.matches u site strict = true → matcher.matches u site loose = true) ∧
    (∀ context : MatchContext, context.IsExactFor matcher → ∀ v other, LooksLike u site v other →
      matcher.matches u site context = matcher.matches v other context) ∧
    MatchContext.forHook.IsExactFor matcher ∧
    ∀ (spec : RuleSpec) (rule : Rule), spec.build = .ok rule → rule.matcher = matcher →
      (rule.matchContext false).IsExactFor matcher ∧
        ∀ context, matcher.matches u site context = true →
          ∀ index < rule.parameters.length, index < (u.arguments site).length := by
  refine ⟨fun arity context harity hlength => ?_, fun hsite context => ?_,
    fun _ _ hlooser h => MethodMatcher.matches_of_isLooserThan hlooser h,
    fun _ hexact _ _ h => MethodMatcher.matches_eq_of_looksLike hexact h,
    MatchContext.isExactFor_forHook matcher, ?_⟩
  · refine Bool.eq_false_iff.mpr fun h => hlength ?_
    rw [← u.length_parameterTypes, MethodMatcher.length_eq_of_matches h harity]
  · refine Bool.eq_false_iff.mpr fun h => ?_
    rw [(MethodMatcher.matches_iff.mp h).1] at hsite
    cases hsite
  · rintro spec rule hbuilt rfl
    exact ⟨(RuleSpec.build_eq_ok_iff.mp hbuilt).2.isExactFor,
      fun _ h _ hindex => Rule.lt_length_arguments hbuilt h hindex⟩

/-! ### A call whose type extends another

The same program twice, but for the type that the class extends.

    class B extends A { void m(B b) { b.go(b); } }
-/

namespace Extending

/-- The nodes of the program, given the type that the class extends. -/
def nodes (super : String) : Array SyntaxNode := #[
  ⟨none, "program", true, none, ⟨1, 1, 0, 47⟩,
    "class B extends " ++ super ++ " \x7b void m(B b) \x7b b.go(b); \x7d \x7d\n"⟩,
  ⟨some 0, "class_declaration", true, none, ⟨1, 1, 0, 46⟩,
    "class B extends " ++ super ++ " \x7b void m(B b) \x7b b.go(b); \x7d \x7d"⟩,
  ⟨some 1, "class", false, none, ⟨1, 1, 0, 5⟩, "class"⟩,
  ⟨some 1, "identifier", true, some "name", ⟨1, 7, 6, 7⟩, "B"⟩,
  ⟨some 1, "superclass", true, some "superclass", ⟨1, 9, 8, 17⟩, "extends " ++ super⟩,
  ⟨some 4, "extends", false, none, ⟨1, 9, 8, 15⟩, "extends"⟩,
  ⟨some 4, "type_identifier", true, none, ⟨1, 17, 16, 17⟩, super⟩,
  ⟨some 1, "class_body", true, some "body", ⟨1, 19, 18, 46⟩,
    "\x7b void m(B b) \x7b b.go(b); \x7d \x7d"⟩,
  ⟨some 7, "\x7b", false, none, ⟨1, 19, 18, 19⟩, "\x7b"⟩,
  ⟨some 7, "method_declaration", true, none, ⟨1, 21, 20, 44⟩, "void m(B b) \x7b b.go(b); \x7d"⟩,
  ⟨some 9, "void_type", true, some "type", ⟨1, 21, 20, 24⟩, "void"⟩,
  ⟨some 9, "identifier", true, some "name", ⟨1, 26, 25, 26⟩, "m"⟩,
  ⟨some 9, "formal_parameters", true, some "parameters", ⟨1, 27, 26, 31⟩, "(B b)"⟩,
  ⟨some 12, "(", false, none, ⟨1, 27, 26, 27⟩, "("⟩,
  ⟨some 12, "formal_parameter", true, none, ⟨1, 28, 27, 30⟩, "B b"⟩,
  ⟨some 14, "type_identifier", true, some "type", ⟨1, 28, 27, 28⟩, "B"⟩,
  ⟨some 14, "identifier", true, some "name", ⟨1, 30, 29, 30⟩, "b"⟩,
  ⟨some 12, ")", false, none, ⟨1, 31, 30, 31⟩, ")"⟩,
  ⟨some 9, "block", true, some "body", ⟨1, 33, 32, 44⟩, "\x7b b.go(b); \x7d"⟩,
  ⟨some 18, "\x7b", false, none, ⟨1, 33, 32, 33⟩, "\x7b"⟩,
  ⟨some 18, "expression_statement", true, none, ⟨1, 35, 34, 42⟩, "b.go(b);"⟩,
  ⟨some 20, "method_invocation", true, none, ⟨1, 35, 34, 41⟩, "b.go(b)"⟩,
  ⟨some 21, "identifier", true, some "object", ⟨1, 35, 34, 35⟩, "b"⟩,
  ⟨some 21, ".", false, none, ⟨1, 36, 35, 36⟩, "."⟩,
  ⟨some 21, "identifier", true, some "name", ⟨1, 37, 36, 38⟩, "go"⟩,
  ⟨some 21, "argument_list", true, some "arguments", ⟨1, 39, 38, 41⟩, "(b)"⟩,
  ⟨some 25, "(", false, none, ⟨1, 39, 38, 39⟩, "("⟩,
  ⟨some 25, "identifier", true, none, ⟨1, 40, 39, 40⟩, "b"⟩,
  ⟨some 25, ")", false, none, ⟨1, 41, 40, 41⟩, ")"⟩,
  ⟨some 20, ";", false, none, ⟨1, 42, 41, 42⟩, ";"⟩,
  ⟨some 18, "\x7d", false, none, ⟨1, 44, 43, 44⟩, "\x7d"⟩,
  ⟨some 7, "\x7d", false, none, ⟨1, 46, 45, 46⟩, "\x7d"⟩]

/-- The unit in which the class extends `A`. -/
def unit : CompilationUnit where
  language := .java
  filePath := "B.java"
  tree := { nodes := nodes "A", parent_lt := by decide +kernel }

/-- The unit in which the class extends `C`. -/
def another : CompilationUnit where
  language := .java
  filePath := "B.java"
  tree := { nodes := nodes "C", parent_lt := by decide +kernel }

/-- The call. -/
def call : Site := .invocation 21

/-- What the author of a rule for the call writes. -/
def spec : RuleSpec :=
  { objectTypes := ["B"], methodNames := ["go"], parameters := [{ typeName := "B" }] }

/-- The rule. -/
def rule : Rule where
  kind := .full
  matcher := ⟨.oneOf ["B"], .oneOf ["go"], .exactly ["B"]⟩
  parameters := [{ typeName := "B" }]
  next := []
  action := none
  bundle := defaultBundle
  exactType := false

end Extending

set_option maxRecDepth 100000 in
/-- The call matches exactly.  So it also matches where subtypes are taken, and whatever the class
extends. -/
theorem call_matches_in_both_units :
    Extending.unit.invokedObjectType? Extending.call ≠
        Extending.another.invokedObjectType? Extending.call ∧
      Extending.rule.matcher.matches Extending.unit Extending.call .forHook = true ∧
      Extending.rule.matcher.matches Extending.unit Extending.call
        (Extending.rule.matchContext true) = true ∧
      Extending.rule.matcher.matches Extending.another Extending.call
        (Extending.rule.matchContext false) = true ∧
      ∀ index < Extending.rule.parameters.length,
        index < (Extending.unit.arguments Extending.call).length := by
  obtain ⟨-, -, hmonotone, hsame, hhook, hrule⟩ :=
    matching_is_monotone Extending.rule.matcher Extending.unit Extending.call
  obtain ⟨hexact, harguments⟩ := hrule Extending.spec Extending.rule rfl rfl
  have hmatches : Extending.rule.matcher.matches Extending.unit Extending.call .forHook = true := by
    decide +kernel
  have hlooks : LooksLike Extending.unit Extending.call Extending.another Extending.call :=
    ⟨rfl, by decide +kernel, by decide +kernel, by unfold HaveSameNames; decide +kernel⟩
  refine ⟨by decide +kernel, hmatches, hmonotone _ .forHook ⟨fun _ => rfl, fun _ _ => rfl⟩ hmatches,
    ?_, harguments _ hmatches⟩
  rw [← hsame _ hexact _ _ hlooks]
  exact hmonotone _ .forHook ⟨fun _ => rfl, fun _ _ => rfl⟩ hmatches

end CryptoUsage
