import CryptoUsage.Detection.Plan
import CryptoUsage.Proofs.Resolution.Flow
import Mathlib.Data.Option.Basic

/-!
# Selections are made in order

`x.trim().toUpperCase()` selects `trim` on the value of `x` and then `toUpperCase` on that.  The
search for the value goes the other way, from the last selection down to what the first is made on,
through parentheses, casts and variables with one value each.  A `Chain` is such a way down, with
the names in the order in which they are selected.

Where a chain starts at a literal, the expression has one value: what the selections make of the
literal, one after the other, if they can all be made (`Chain.resolveValue_eq`).  Where it starts at
a parameter, it has no value yet, and the selections are kept with the plan to wait for a call of
the method; on the argument of a call they give the same again (`Chain.planWithin_eq`,
`selections_are_replayed`).

The exception are member accesses that a unit takes for something it declares (`namesDeclared`).
`x.value.name` is not the name of `x.value` in a unit with an enum `value` that has a constant
`name` (`access_is_taken_for_constant`).
-/

set_option autoImplicit false

namespace CryptoUsage

theorem Constant.selectAll?_reverse (c : Constant) (names : List String) :
    c.selectAll? names.reverse = names.foldlM select? c := by
  induction names generalizing c with
  | nil => rfl
  | cons name names ih =>
    rw [List.reverse_cons, selectAll?_concat, List.foldlM_cons]
    cases c.select? name with
    | none => rfl
    | some value => exact ih value

namespace CompilationUnit

/-! ## Chains of selections -/

section Chains

variable (u : CompilationUnit)

/-- The object and the name of a member access, given of which kind its node is and in which slot
its name stands. -/
def accessOf? (kind slot : String) (n : NodeId) : Option (NodeId × String) := do
  guard (u.tree.kind n == kind)
  let object ← u.tree.child? n "object"
  let name ← u.tree.child? n slot
  return (object, u.tree.text name)

/-- The object and the name of a member access. -/
def access? (n : NodeId) : Option (NodeId × String) :=
  match u.language with
  | .java => u.accessOf? "field_access" "field" n
  | .python => u.accessOf? "attribute" "attribute" n

/-- Whether the unit takes a node for a variable or for an enum constant that it declares. -/
def namesDeclared (n : NodeId) : Bool :=
  match u.expression n with
  | .variable _ | .enumConstant _ _ => true
  | _ => false

/-- The nodes from an expression down to what its first selection is made on, and the names that are
selected, in order.  What a call of a method of the unit returns is no selection. -/
inductive Chain (start : NodeId) : List NodeId → List String → NodeId → Prop
  | start : Chain start [] [] start
  /-- Parentheses and casts. -/
  | wrapped {n inner : NodeId} {path : List NodeId} {names : List String}
      (isWrapped : u.expression n = .wrapped inner) (chain : Chain start path names inner) :
      Chain start (n :: path) names n
  /-- A local variable that is assigned once. -/
  | once {n source : NodeId} {path : List NodeId} {names : List String} {s : Symbol}
      (isVariable : u.expression n = .variable s) (isLocal : s.kind = .local)
      (sources_eq : u.valueSources s = [source]) (chain : Chain start path names source) :
      Chain start (n :: path) names n
  | access {n object : NodeId} {path : List NodeId} {names : List String} {name : String}
      (isAccess : u.access? n = some (object, name)) (chain : Chain start path names object) :
      Chain start (n :: path) (names ++ [name]) n
  | call {n receiver : NodeId} {path : List NodeId} {names : List String} {name : String}
      (isCall : u.expression n = .call (.invocation n))
      (receiver_eq : u.receiver? (.invocation n) = some receiver)
      (name_eq : u.methodName? (.invocation n) = some name)
      (notDefined : u.methodDefinition? (.invocation n) = none)
      (chain : Chain start path names receiver) : Chain start (n :: path) (names ++ [name]) n

/-- No member access on the way is taken for something that the unit declares. -/
def IsPlain (path : List NodeId) : Prop :=
  ∀ n ∈ path, (u.access? n).isSome = true → u.namesDeclared n = false

instance (path : List NodeId) : Decidable (u.IsPlain path) :=
  inferInstanceAs (Decidable (∀ n ∈ path, (u.access? n).isSome = true → u.namesDeclared n = false))

/-- What the selections make of a constant at a node, one after the other, as the factory expects
it. -/
def replay (factory : ValueFactory) (names : List String) (c : Constant) (n : NodeId) :
    List Reading :=
  (((names.foldlM Constant.select? c).bind fun value => value.cast? factory.expected).map
    fun constant => ⟨constant, n⟩).toList

/-- The next expression on the way down. -/
def onward? (n : NodeId) : Option NodeId :=
  match u.expression n with
  | .wrapped inner => some inner
  | .variable s => if s.kind = .parameter then none else (u.valueSources s).head?
  | .member object _ => some object
  | .call site => u.receiver? site
  | _ => none

end Chains

variable {u : CompilationUnit} {start n n' : NodeId} {path path' visited : List NodeId}
  {names names' later : List String} {steps : Nat}

theorem readingOf_reverse (factory : ValueFactory) (names : List String) (c : Constant)
    (n : NodeId) : readingOf factory names.reverse c n = replay factory names c n := by
  rw [readingOf, Constant.selectAll?_reverse, replay]

theorem accessOf?_eq_some {kind slot name : String} {object : NodeId} :
    u.accessOf? kind slot n = some (object, name) ↔
      u.tree.kind n = kind ∧ u.tree.child? n "object" = some object ∧
        ∃ member, u.tree.child? n slot = some member ∧ u.tree.text member = name := by
  simp only [accessOf?, Option.bind_eq_bind, Option.bind_eq_some_iff, Option.guard_eq_some',
    exists_const, beq_iff_eq, Option.pure_def, Option.some.injEq, Prod.mk.injEq]
  constructor
  · rintro ⟨hkind, _, hobject, member, hmember, rfl, rfl⟩
    exact ⟨hkind, hobject, member, hmember, rfl⟩
  · rintro ⟨hkind, hobject, member, hmember, rfl⟩
    exact ⟨hkind, object, hobject, member, hmember, rfl, rfl⟩

theorem java_expression_of_access? (hlanguage : u.language = .java)
    (hkind : u.tree.kind n = "field_access") : u.expression n = Java.fieldExpression u n := by
  have hliteral : Java.literal? u n = none := by
    have hinteger : Category.integerLiteral.holds .java "field_access" = false := by decide
    simp [Java.literal?, Java.isIn, hkind, hinteger]
  simp only [expression, hlanguage, Java.expression, hliteral, hkind]

theorem python_expression_of_access? (hlanguage : u.language = .python)
    (hkind : u.tree.kind n = "attribute") : u.expression n = Python.attributeExpression u n := by
  simp only [expression, hlanguage, Python.expression, hkind]

/-- A member access that is taken for nothing that the unit declares is read as one. -/
theorem expression_of_access? {object : NodeId} {name : String}
    (h : u.access? n = some (object, name)) (hfree : u.namesDeclared n = false) :
    u.expression n = .member object name := by
  rw [namesDeclared] at hfree
  cases hlanguage : u.language with
  | java =>
    simp only [access?, hlanguage] at h
    obtain ⟨hkind, hobject, member, hmember, rfl⟩ := accessOf?_eq_some.mp h
    rw [java_expression_of_access? hlanguage hkind, Java.fieldExpression] at hfree ⊢
    cases hselection : Java.enumSelection? u n with
    | some selected =>
      rw [hselection] at hfree
      cases hfree
    | none =>
      simp only [hselection, hobject, hmember] at hfree ⊢
      cases hsymbol : (if u.tree.kind object = "this" then
          Java.thisField? u (u.tree.text member) n
        else Java.staticMember? u object (u.tree.text member)) with
      | some symbol =>
        rw [hsymbol] at hfree
        cases hfree
      | none => rfl
  | python =>
    simp only [access?, hlanguage] at h
    obtain ⟨hkind, hobject, member, hmember, rfl⟩ := accessOf?_eq_some.mp h
    rw [python_expression_of_access? hlanguage hkind, Python.attributeExpression] at hfree ⊢
    simp only [hobject, hmember] at hfree ⊢
    cases hfield : (do
        let name ← Python.selfAttribute? u n
        let owner ← Python.enclosingClass? u n
        Python.fieldNamed? u name owner : Option Symbol) with
    | some symbol =>
      rw [hfield] at hfree
      cases hfree
    | none => rfl

/-! ## The way down -/

theorem Chain.eq_start (h : u.Chain start [] names n) : n = start := by
  cases h
  rfl

/-- A call of no method of the unit is looked at on its receiver. -/
theorem resolveInvocation_of_not_defined {config : ScanConfig} {onward : Resolver} {site : Site}
    {receiver : NodeId} {name : String} (hreceiver : u.receiver? site = some receiver)
    (hname : u.methodName? site = some name) (hnone : u.methodDefinition? site = none)
    (frames : List Frame) (selections : List String) :
    u.resolveInvocation config onward frames selections site =
      onward frames (selections ++ [name]) receiver := by
  have hreturned : u.resolveReturned config onward frames selections site = [] := by
    simp only [resolveReturned, hnone, ite_self]
  simp only [resolveInvocation, hreturned, hreceiver, hname]

/-- The first node of a chain passes on to the rest of it, with the name that it selects if it
selects one. -/
theorem Chain.exists_step (h : u.Chain start (n' :: path) names n)
    (hplain : u.IsPlain (n' :: path)) :
    ∃ next before selected, u.onward? n = some next ∧ u.Chain start path before next ∧
      names = before ++ selected ∧
      ∀ config factory (onward : Resolver) selections,
        u.resolveShape config factory onward [] selections n (u.expression n) =
          onward [] (selections ++ selected.reverse) next := by
  cases h with
  | @wrapped _ inner _ _ isWrapped chain =>
    refine ⟨inner, names, [], by simp only [onward?, isWrapped], chain, (List.append_nil _).symm,
      fun config factory onward selections => ?_⟩
    rw [isWrapped, resolveShape, List.reverse_nil, List.append_nil]
  | @once _ source _ _ _ isVariable isLocal sources_eq chain =>
    refine ⟨source, names, [], ?_, chain, (List.append_nil _).symm,
      fun config factory onward selections => ?_⟩
    · simp only [onward?, isVariable, isLocal, sources_eq, reduceCtorEq, if_false, List.head?_cons]
    · rw [isVariable, List.reverse_nil, List.append_nil]
      simp only [resolveShape, resolveVariable, resolveVariable.bySources, isLocal, reduceCtorEq,
        if_false, sources_eq, List.flatMap_singleton]
  | @access _ object _ before name isAccess chain =>
    have hshape : u.expression n = .member object name :=
      expression_of_access? isAccess
        (hplain _ List.mem_cons_self (by rw [isAccess, Option.isSome_some]))
    refine ⟨object, before, [name], by simp only [onward?, hshape], chain, rfl,
      fun config factory onward selections => ?_⟩
    rw [hshape, resolveShape, List.reverse_singleton]
  | @call _ receiver _ before name isCall receiver_eq name_eq notDefined chain =>
    refine ⟨receiver, before, [name], by simp only [onward?, isCall, receiver_eq], chain, rfl,
      fun config factory onward selections => ?_⟩
    rw [isCall, resolveShape, resolveInvocation_of_not_defined receiver_eq name_eq notDefined,
      List.reverse_singleton]

/-- Every node has a chain of one length only. -/
theorem Chain.length_eq (hstart : u.onward? start = none) (h : u.Chain start path names n)
    (hplain : u.IsPlain path) (h' : u.Chain start path' names' n) (hplain' : u.IsPlain path') :
    path.length = path'.length := by
  induction path generalizing n names path' names' with
  | nil =>
    cases path' with
    | nil => rfl
    | cons m path' =>
      obtain ⟨_, _, _, hnext, -⟩ := h'.exists_step hplain'
      rw [h.eq_start, hstart] at hnext
      cases hnext
  | cons m path ih =>
    obtain ⟨next, _, _, hnext, hrest, -⟩ := h.exists_step hplain
    cases path' with
    | nil =>
      rw [h'.eq_start, hstart] at hnext
      cases hnext
    | cons m' path' =>
      obtain ⟨next', _, _, hnext', hrest', -⟩ := h'.exists_step hplain'
      obtain rfl := Option.some.inj (hnext.symm.trans hnext')
      rw [List.length_cons, List.length_cons, ih hrest (List.forall_mem_cons.mp hplain).2 hrest'
        (List.forall_mem_cons.mp hplain').2]

variable (u) in
/-- The nodes were passed on the way down to a node that has so many more to pass. -/
def ArePassed (start : NodeId) (visited : List NodeId) (more : Nat) : Prop :=
  ∀ m ∈ visited, ∃ path names, u.Chain start path names m ∧ u.IsPlain path ∧ more < path.length

/-- No node is passed twice on the way down. -/
theorem ArePassed.not_contains (hstart : u.onward? start = none) (h : u.Chain start path names n)
    (hplain : u.IsPlain path) (hpassed : u.ArePassed start visited path.length) :
    visited.contains n = false := by
  rw [← Bool.not_eq_true, List.contains_iff_mem]
  intro hmem
  obtain ⟨path', names', h', hplain', hlt⟩ := hpassed n hmem
  exact absurd (h.length_eq hstart hplain h' hplain') (Nat.ne_of_lt hlt)

theorem arePassed_nil (start : NodeId) (more : Nat) : u.ArePassed start [] more :=
  fun _ hmem => absurd hmem List.not_mem_nil

theorem ArePassed.cons {more : Nat} (hpassed : u.ArePassed start visited path.length)
    (h : u.Chain start path names n) (hplain : u.IsPlain path) (hlt : more < path.length) :
    u.ArePassed start (n :: visited) more := by
  intro m hm
  rcases List.mem_cons.mp hm with rfl | hm
  · exact ⟨path, names, h, hplain, hlt⟩
  · obtain ⟨path', names', h', hplain', hlt'⟩ := hpassed m hm
    exact ⟨path', names', h', hplain', Nat.lt_trans hlt hlt'⟩

/-! ## Following a chain -/

section Resolving

variable {config : ScanConfig} {factory : ValueFactory} {size : Bool}

theorem resolveWithin_succ (hnew : visited.contains n = false) (frames : List Frame)
    (selections : List String) :
    u.resolveWithin config factory (steps + 1) visited frames selections n =
      u.resolveShape config factory (u.resolveWithin config factory steps (n :: visited)) frames
        selections n (u.expression n) := by
  simp only [resolveWithin, hnew, Bool.false_eq_true, if_false]

theorem planWithin_succ (hnew : visited.contains n = false) (selections : List String) :
    u.planWithin config size (steps + 1) visited selections n =
      u.planShape config size (u.planWithin config size steps (n :: visited)) selections
        (u.expression n) := by
  simp only [planWithin, hnew, Bool.false_eq_true, if_false]

/-- An expression has the values that the start of its chain has with the selections made on it. -/
theorem Chain.resolveWithin_eq (hstart : u.onward? start = none) (h : u.Chain start path names n)
    (hplain : u.IsPlain path) {found : List String → List Reading}
    (hfound : ∀ steps visited selections, visited.contains start = false →
      u.resolveWithin config factory (steps + 1) visited [] selections start = found selections)
    (hsteps : path.length < steps) (hpassed : u.ArePassed start visited path.length)
    (selections : List String) :
    u.resolveWithin config factory steps visited [] selections n =
      found (selections ++ names.reverse) := by
  obtain ⟨steps, rfl⟩ := Nat.exists_eq_add_one_of_ne_zero (Nat.ne_zero_of_lt hsteps)
  have hnew := hpassed.not_contains hstart h hplain
  induction path generalizing n names steps visited selections with
  | nil =>
    cases h
    rw [List.reverse_nil, List.append_nil]
    exact hfound steps visited selections hnew
  | cons m path ih =>
    obtain ⟨next, before, selected, -, hnext, rfl, hshape⟩ := h.exists_step hplain
    have hplain' := (List.forall_mem_cons.mp hplain).2
    have hpassed' := hpassed.cons h hplain (Nat.lt_succ_self path.length)
    have hsteps' := Nat.lt_of_succ_lt_succ hsteps
    obtain ⟨steps, rfl⟩ := Nat.exists_eq_add_one_of_ne_zero (Nat.ne_zero_of_lt hsteps')
    rw [resolveWithin_succ hnew, hshape, List.reverse_append, ← List.append_assoc]
    exact ih hnext hplain' hpassed' _ _ hsteps' (hpassed'.not_contains hstart hnext hplain')

/-- **The selections are made on the literal in order.** -/
theorem Chain.resolveValue_eq (h : u.Chain start path names n) (hplain : u.IsPlain path)
    (hlimit : path.length ≤ config.maxResolutionDepth) {c : Constant}
    (hliteral : u.expression start = .literal c) (later : List String) :
    u.resolveValue config factory later.reverse n = replay factory (names ++ later) c start := by
  have hstart : u.onward? start = none := by simp only [onward?, hliteral]
  have hfound : ∀ steps visited selections, visited.contains start = false →
      u.resolveWithin config factory (steps + 1) visited [] selections start =
        readingOf factory selections c start := fun steps visited selections hnew => by
    rw [resolveWithin_succ hnew, hliteral, resolveShape]
  rw [resolveValue, h.resolveWithin_eq hstart hplain hfound (Nat.lt_succ_of_le hlimit)
    (arePassed_nil _ _), ← List.reverse_append, readingOf_reverse]

theorem onward?_of_parameter {p : Symbol} (hvariable : u.expression n = .variable p)
    (hkind : p.kind = .parameter) : u.onward? n = none := by
  simp only [onward?, hvariable, hkind, if_true]

/-- Selections on a parameter have no value yet. -/
theorem Chain.resolveValue_eq_nil (h : u.Chain start path names n) (hplain : u.IsPlain path)
    (hlimit : path.length ≤ config.maxResolutionDepth) {p : Symbol}
    (hvariable : u.expression start = .variable p) (hkind : p.kind = .parameter)
    (selections : List String) : u.resolveValue config factory selections n = [] := by
  have hfound : ∀ steps visited selections, visited.contains start = false →
      u.resolveWithin config factory (steps + 1) visited [] selections start =
        (fun _ => []) selections := fun steps visited selections hnew => by
    rw [resolveWithin_succ hnew, hvariable]
    simp only [resolveShape, resolveVariable, resolveVariable.bySources, hkind, if_true]
  exact h.resolveWithin_eq (onward?_of_parameter hvariable hkind) hplain hfound
    (Nat.lt_succ_of_le hlimit) (arePassed_nil _ _) selections

/-! ## Planning along a chain -/

theorem Chain.mem (h : u.Chain start path names n) : n ∈ path ++ [start] := by
  cases h with
  | start => exact List.mem_singleton_self _
  | _ => exact List.mem_cons_self

/-- A chain without the wrappers around its end. -/
theorem Chain.exists_unwrapped (hstart : u.onward? start = none) (h : u.Chain start path names n)
    (hplain : u.IsPlain path) (count : Nat) :
    ∃ path', u.Chain start path' names (u.unwrapWithin count n) ∧ path' <:+ path := by
  induction count generalizing path n with
  | zero => exact ⟨path, h, List.suffix_rfl⟩
  | succ count ih =>
    rw [unwrapWithin]
    split
    · next inner hinner =>
      cases h with
      | start =>
        simp only [onward?, hinner] at hstart
        cases hstart
      | wrapped isWrapped chain =>
        cases isWrapped.symm.trans hinner
        obtain ⟨path', hchain, hsuffix⟩ := ih chain (List.forall_mem_cons.mp hplain).2
        exact ⟨path', hchain, hsuffix.trans (List.suffix_cons ..)⟩
      | once isVariable => cases isVariable.symm.trans hinner
      | access isAccess =>
        have hfree := hplain _ List.mem_cons_self (by rw [isAccess, Option.isSome_some])
        cases (expression_of_access? isAccess hfree).symm.trans hinner
      | call isCall => cases isCall.symm.trans hinner
    · exact ⟨path, h, List.suffix_rfl⟩

/-- A variable that does not range over an enum is waited for as such. -/
theorem planVariable_of_parameter {onward : Planner} {p : Symbol} {method : NodeId} {place : Nat}
    (hkind : p.kind = .parameter) (hplace : u.parameterPosition? p = some (method, place))
    (henum : u.enumTypeOf? p = none) (selections : List String) :
    u.planVariable onward selections p = [.parameter method place selections] := by
  simp only [planVariable, henum, hkind, hplace, Option.map_some, Option.toList_some]

/-- A call of no method of the unit is planned for on its receiver, unless that ranges over an
enum. -/
theorem planInvocation_of_not_defined {onward : Planner} {site : Site} {receiver : NodeId}
    {name : String} (hreceiver : u.receiver? site = some receiver)
    (hname : u.methodName? site = some name) (hnone : u.methodDefinition? site = none)
    (henum : u.receiverEnum? (u.unwrap config receiver) = none) (selections : List String) :
    u.planInvocation config onward selections site =
      onward (selections ++ [name]) (u.unwrap config receiver) := by
  simp only [planInvocation, hreceiver, hname, hnone, Option.bind_eq_bind, Option.bind_some,
    Option.pure_def, henum, Option.map_none]

/-- **The selections are kept with the plan for the parameter.** -/
theorem Chain.planWithin_eq (h : u.Chain start path names n) (hplain : u.IsPlain path) {p : Symbol}
    (hvariable : u.expression start = .variable p) (hkind : p.kind = .parameter) {method : NodeId}
    {place : Nat} (hplace : u.parameterPosition? p = some (method, place))
    (henum : ∀ m ∈ path ++ [start], u.receiverEnum? m = none) (hsteps : path.length < steps)
    (hpassed : u.ArePassed start visited path.length) (selections : List String) :
    u.planWithin config size steps visited selections n =
      [.parameter method place (selections ++ names.reverse)] := by
  have hstart := onward?_of_parameter hvariable hkind
  -- a call goes on at its receiver without the wrappers, so the next chain may be any shorter one
  induction hlength : path.length using Nat.strongRecOn
    generalizing path names n steps visited selections with
  | ind length ih =>
    subst hlength
    have henumOf : ∀ {s}, u.expression n = .variable s → u.enumTypeOf? s = none := fun hs => by
      have hnone := henum n h.mem
      rwa [receiverEnum?, hs] at hnone
    obtain ⟨steps, rfl⟩ := Nat.exists_eq_add_one_of_ne_zero (Nat.ne_zero_of_lt hsteps)
    rw [planWithin_succ (hpassed.not_contains hstart h hplain)]
    cases path with
    | nil =>
      cases h
      rw [hvariable, planShape, planVariable_of_parameter hkind hplace (henumOf hvariable),
        List.reverse_nil, List.append_nil]
    | cons m rest =>
      have hnext : ∀ {path' names' next}, u.Chain start path' names' next → path' <:+ rest →
          ∀ selections', u.planWithin config size steps (n :: visited) selections' next =
            [.parameter method place (selections' ++ names'.reverse)] := by
        intro path' names' next hchain hsuffix selections'
        have hlt : path'.length < (m :: rest).length := Nat.lt_succ_of_le hsuffix.length_le
        have hsub : path' ⊆ m :: rest := List.subset_cons_of_subset m hsuffix.subset
        refine ih path'.length hlt hchain (fun a ha => hplain a (hsub ha)) (fun a ha => henum a ?_)
          (by omega) (hpassed.cons h hplain hlt) selections' rfl
        rcases List.mem_append.mp ha with ha | ha
        · exact List.mem_append_left _ (hsub ha)
        · exact List.mem_append_right _ ha
      cases h with
      | wrapped isWrapped chain =>
        rw [isWrapped, planShape]
        exact hnext chain List.suffix_rfl selections
      | once isVariable isLocal sources_eq chain =>
        rw [isVariable, planShape]
        simp only [planVariable, henumOf isVariable, isLocal, sources_eq, List.flatMap_singleton]
        exact hnext chain List.suffix_rfl selections
      | @access _ object path names name isAccess chain =>
        have hfree := hplain _ List.mem_cons_self (by rw [isAccess, Option.isSome_some])
        rw [expression_of_access? isAccess hfree, planShape, List.reverse_append,
          ← List.append_assoc]
        exact hnext chain List.suffix_rfl (selections ++ [name])
      | @call _ receiver path names name isCall receiver_eq name_eq notDefined chain =>
        obtain ⟨path', hchain, hsuffix⟩ := chain.exists_unwrapped hstart
          (List.forall_mem_cons.mp hplain).2 config.maxResolutionDepth
        have hfree : u.receiverEnum? (u.unwrap config receiver) = none := by
          refine henum _ ?_
          rcases List.mem_append.mp hchain.mem with hmem | hmem
          · exact List.mem_append_left _ (List.mem_cons_of_mem _ (hsuffix.subset hmem))
          · exact List.mem_append_right _ hmem
        rw [isCall, planShape,
          planInvocation_of_not_defined receiver_eq name_eq notDefined hfree, List.reverse_append,
          ← List.append_assoc]
        exact hnext hchain hsuffix (selections ++ [name])

variable (config factory size) in
/-- **Selections are replayed in order.**  Let an expression select some names one after the other,
by calls of no method of the unit and by member accesses that are taken for nothing else, with any
parentheses, casts and local variables with one value in between, and let the search not come too
deep.  Some more names may be selected on the expression `later`.

If the selections start at a literal, the expression has one value, which is what they all make of
the literal in order, or none if they cannot all be made or what they make is not as the factory
expects it.  If they start at a parameter, it has no value yet.  But with the selections that are
kept with the plan for the parameter, an argument which is a literal, or which selects names on a
literal itself, has the value that all the selections make. -/
theorem selections_are_replayed (h : u.Chain start path names n) (hplain : u.IsPlain path)
    (hlimit : path.length ≤ config.maxResolutionDepth) :
    (∀ {c}, u.expression start = .literal c → ∀ later,
      u.resolveValue config factory later.reverse n = replay factory (names ++ later) c start) ∧
    (∀ {p method place}, u.expression start = .variable p → p.kind = .parameter →
      u.parameterPosition? p = some (method, place) →
      (∀ m ∈ path ++ [start], u.receiverEnum? m = none) → ∀ later,
        u.resolveValue config factory later.reverse n = [] ∧
        u.planHooks config size later.reverse n =
          [.parameter method place (names ++ later).reverse] ∧
        ∀ {literal path' names' argument c}, u.Chain literal path' names' argument →
          u.IsPlain path' → path'.length ≤ config.maxResolutionDepth →
          u.expression literal = .literal c →
            u.resolveValue config factory (names ++ later).reverse argument =
              replay factory (names' ++ (names ++ later)) c literal) := by
  refine ⟨fun hliteral => h.resolveValue_eq hplain hlimit hliteral,
    fun hvariable hkind hplace henum later => ⟨?_, ?_, ?_⟩⟩
  · exact h.resolveValue_eq_nil hplain hlimit hvariable hkind later.reverse
  · rw [List.reverse_append]
    exact h.planWithin_eq hplain hvariable hkind hplace henum (Nat.lt_succ_of_le hlimit)
      (arePassed_nil _ _) later.reverse
  · intro literal path' names' argument c hchain hplain' hlimit' hliteral
    exact hchain.resolveValue_eq hplain' hlimit' hliteral (names ++ later)

end Resolving

end CompilationUnit

/-! ### Selections on a text and on a parameter

    class C {
        void m(String p) {
            String x = " Aes ";
            f(x.value.name, x.trim().toUpperCase(), p.trim().toUpperCase());
        }
    }
    enum value { name }
-/

namespace Trimmed

/-- The nodes of the program. -/
def nodes : Array SyntaxNode := #[
  ⟨none, "program", true, none, ⟨1, 1, 0, 162⟩,
    "class C \x7b\n    void m(String p) \x7b\n        String x = \" Aes \";\n        f(x.value.name, x.trim().toUpperCase(), p.trim().toUpperCase());\n    \x7d\n\x7d\nenum value \x7b name \x7d\n"⟩,
  ⟨some 0, "class_declaration", true, none, ⟨1, 1, 0, 141⟩,
    "class C \x7b\n    void m(String p) \x7b\n        String x = \" Aes \";\n        f(x.value.name, x.trim().toUpperCase(), p.trim().toUpperCase());\n    \x7d\n\x7d"⟩,
  ⟨some 1, "class", false, none, ⟨1, 1, 0, 5⟩, "class"⟩,
  ⟨some 1, "identifier", true, some "name", ⟨1, 7, 6, 7⟩, "C"⟩,
  ⟨some 1, "class_body", true, some "body", ⟨1, 9, 8, 141⟩,
    "\x7b\n    void m(String p) \x7b\n        String x = \" Aes \";\n        f(x.value.name, x.trim().toUpperCase(), p.trim().toUpperCase());\n    \x7d\n\x7d"⟩,
  ⟨some 4, "\x7b", false, none, ⟨1, 9, 8, 9⟩, "\x7b"⟩,
  ⟨some 4, "method_declaration", true, none, ⟨2, 5, 14, 139⟩,
    "void m(String p) \x7b\n        String x = \" Aes \";\n        f(x.value.name, x.trim().toUpperCase(), p.trim().toUpperCase());\n    \x7d"⟩,
  ⟨some 6, "void_type", true, some "type", ⟨2, 5, 14, 18⟩, "void"⟩,
  ⟨some 6, "identifier", true, some "name", ⟨2, 10, 19, 20⟩, "m"⟩,
  ⟨some 6, "formal_parameters", true, some "parameters", ⟨2, 11, 20, 30⟩, "(String p)"⟩,
  ⟨some 9, "(", false, none, ⟨2, 11, 20, 21⟩, "("⟩,
  ⟨some 9, "formal_parameter", true, none, ⟨2, 12, 21, 29⟩, "String p"⟩,
  ⟨some 11, "type_identifier", true, some "type", ⟨2, 12, 21, 27⟩, "String"⟩,
  ⟨some 11, "identifier", true, some "name", ⟨2, 19, 28, 29⟩, "p"⟩,
  ⟨some 9, ")", false, none, ⟨2, 20, 29, 30⟩, ")"⟩,
  ⟨some 6, "block", true, some "body", ⟨2, 22, 31, 139⟩,
    "\x7b\n        String x = \" Aes \";\n        f(x.value.name, x.trim().toUpperCase(), p.trim().toUpperCase());\n    \x7d"⟩,
  ⟨some 15, "\x7b", false, none, ⟨2, 22, 31, 32⟩, "\x7b"⟩,
  ⟨some 15, "local_variable_declaration", true, none, ⟨3, 9, 41, 60⟩, "String x = \" Aes \";"⟩,
  ⟨some 17, "type_identifier", true, some "type", ⟨3, 9, 41, 47⟩, "String"⟩,
  ⟨some 17, "variable_declarator", true, some "declarator", ⟨3, 16, 48, 59⟩, "x = \" Aes \""⟩,
  ⟨some 19, "identifier", true, some "name", ⟨3, 16, 48, 49⟩, "x"⟩,
  ⟨some 19, "=", false, none, ⟨3, 18, 50, 51⟩, "="⟩,
  ⟨some 19, "string_literal", true, some "value", ⟨3, 20, 52, 59⟩, "\" Aes \""⟩,
  ⟨some 22, "\"", false, none, ⟨3, 20, 52, 53⟩, "\""⟩,
  ⟨some 22, "string_fragment", true, none, ⟨3, 21, 53, 58⟩, " Aes "⟩,
  ⟨some 22, "\"", false, none, ⟨3, 26, 58, 59⟩, "\""⟩,
  ⟨some 17, ";", false, none, ⟨3, 27, 59, 60⟩, ";"⟩,
  ⟨some 15, "expression_statement", true, none, ⟨4, 9, 69, 133⟩,
    "f(x.value.name, x.trim().toUpperCase(), p.trim().toUpperCase());"⟩,
  ⟨some 27, "method_invocation", true, none, ⟨4, 9, 69, 132⟩,
    "f(x.value.name, x.trim().toUpperCase(), p.trim().toUpperCase())"⟩,
  ⟨some 28, "identifier", true, some "name", ⟨4, 9, 69, 70⟩, "f"⟩,
  ⟨some 28, "argument_list", true, some "arguments", ⟨4, 10, 70, 132⟩,
    "(x.value.name, x.trim().toUpperCase(), p.trim().toUpperCase())"⟩,
  ⟨some 30, "(", false, none, ⟨4, 10, 70, 71⟩, "("⟩,
  ⟨some 30, "field_access", true, none, ⟨4, 11, 71, 83⟩, "x.value.name"⟩,
  ⟨some 32, "field_access", true, some "object", ⟨4, 11, 71, 78⟩, "x.value"⟩,
  ⟨some 33, "identifier", true, some "object", ⟨4, 11, 71, 72⟩, "x"⟩,
  ⟨some 33, ".", false, none, ⟨4, 12, 72, 73⟩, "."⟩,
  ⟨some 33, "identifier", true, some "field", ⟨4, 13, 73, 78⟩, "value"⟩,
  ⟨some 32, ".", false, none, ⟨4, 18, 78, 79⟩, "."⟩,
  ⟨some 32, "identifier", true, some "field", ⟨4, 19, 79, 83⟩, "name"⟩,
  ⟨some 30, ",", false, none, ⟨4, 23, 83, 84⟩, ","⟩,
  ⟨some 30, "method_invocation", true, none, ⟨4, 25, 85, 107⟩, "x.trim().toUpperCase()"⟩,
  ⟨some 40, "method_invocation", true, some "object", ⟨4, 25, 85, 93⟩, "x.trim()"⟩,
  ⟨some 41, "identifier", true, some "object", ⟨4, 25, 85, 86⟩, "x"⟩,
  ⟨some 41, ".", false, none, ⟨4, 26, 86, 87⟩, "."⟩,
  ⟨some 41, "identifier", true, some "name", ⟨4, 27, 87, 91⟩, "trim"⟩,
  ⟨some 41, "argument_list", true, some "arguments", ⟨4, 31, 91, 93⟩, "()"⟩,
  ⟨some 45, "(", false, none, ⟨4, 31, 91, 92⟩, "("⟩,
  ⟨some 45, ")", false, none, ⟨4, 32, 92, 93⟩, ")"⟩,
  ⟨some 40, ".", false, none, ⟨4, 33, 93, 94⟩, "."⟩,
  ⟨some 40, "identifier", true, some "name", ⟨4, 34, 94, 105⟩, "toUpperCase"⟩,
  ⟨some 40, "argument_list", true, some "arguments", ⟨4, 45, 105, 107⟩, "()"⟩,
  ⟨some 50, "(", false, none, ⟨4, 45, 105, 106⟩, "("⟩,
  ⟨some 50, ")", false, none, ⟨4, 46, 106, 107⟩, ")"⟩,
  ⟨some 30, ",", false, none, ⟨4, 47, 107, 108⟩, ","⟩,
  ⟨some 30, "method_invocation", true, none, ⟨4, 49, 109, 131⟩, "p.trim().toUpperCase()"⟩,
  ⟨some 54, "method_invocation", true, some "object", ⟨4, 49, 109, 117⟩, "p.trim()"⟩,
  ⟨some 55, "identifier", true, some "object", ⟨4, 49, 109, 110⟩, "p"⟩,
  ⟨some 55, ".", false, none, ⟨4, 50, 110, 111⟩, "."⟩,
  ⟨some 55, "identifier", true, some "name", ⟨4, 51, 111, 115⟩, "trim"⟩,
  ⟨some 55, "argument_list", true, some "arguments", ⟨4, 55, 115, 117⟩, "()"⟩,
  ⟨some 59, "(", false, none, ⟨4, 55, 115, 116⟩, "("⟩,
  ⟨some 59, ")", false, none, ⟨4, 56, 116, 117⟩, ")"⟩,
  ⟨some 54, ".", false, none, ⟨4, 57, 117, 118⟩, "."⟩,
  ⟨some 54, "identifier", true, some "name", ⟨4, 58, 118, 129⟩, "toUpperCase"⟩,
  ⟨some 54, "argument_list", true, some "arguments", ⟨4, 69, 129, 131⟩, "()"⟩,
  ⟨some 64, "(", false, none, ⟨4, 69, 129, 130⟩, "("⟩,
  ⟨some 64, ")", false, none, ⟨4, 70, 130, 131⟩, ")"⟩,
  ⟨some 30, ")", false, none, ⟨4, 71, 131, 132⟩, ")"⟩,
  ⟨some 27, ";", false, none, ⟨4, 72, 132, 133⟩, ";"⟩,
  ⟨some 15, "\x7d", false, none, ⟨5, 5, 138, 139⟩, "\x7d"⟩,
  ⟨some 4, "\x7d", false, none, ⟨6, 1, 140, 141⟩, "\x7d"⟩,
  ⟨some 0, "enum_declaration", true, none, ⟨7, 1, 142, 161⟩, "enum value \x7b name \x7d"⟩,
  ⟨some 71, "enum", false, none, ⟨7, 1, 142, 146⟩, "enum"⟩,
  ⟨some 71, "identifier", true, some "name", ⟨7, 6, 147, 152⟩, "value"⟩,
  ⟨some 71, "enum_body", true, some "body", ⟨7, 12, 153, 161⟩, "\x7b name \x7d"⟩,
  ⟨some 74, "\x7b", false, none, ⟨7, 12, 153, 154⟩, "\x7b"⟩,
  ⟨some 74, "enum_constant", true, none, ⟨7, 14, 155, 159⟩, "name"⟩,
  ⟨some 76, "identifier", true, some "name", ⟨7, 14, 155, 159⟩, "name"⟩,
  ⟨some 74, "\x7d", false, none, ⟨7, 19, 160, 161⟩, "\x7d"⟩]

/-- The unit with the program. -/
def unit : CompilationUnit where
  language := .java
  filePath := "C.java"
  tree := { nodes, parent_lt := by decide +kernel }

/-- The variable. -/
def x : Symbol := ⟨"x", 19, .local⟩

/-- The parameter. -/
def p : Symbol := ⟨"p", 11, .parameter⟩

set_option maxRecDepth 100000 in
/-- What the calls in the third argument select on what, and that they are of no method of the
unit. -/
theorem calls : ∀ call ∈ [(54, 55, "toUpperCase"), (55, 56, "trim")],
    unit.expression call.1 = .call (.invocation call.1) ∧
      unit.receiver? (.invocation call.1) = some call.2.1 ∧
      unit.methodName? (.invocation call.1) = some call.2.2 ∧
      unit.methodDefinition? (.invocation call.1) = none := by decide +kernel

theorem chain_of_call {n receiver start : NodeId} {path : List NodeId} {names : List String}
    {name : String} (h : (n, receiver, name) ∈ [(54, 55, "toUpperCase"), (55, 56, "trim")])
    (chain : unit.Chain start path names receiver) :
    unit.Chain start (n :: path) (names ++ [name]) n := by
  obtain ⟨hcall, hreceiver, hname, hnone⟩ := calls _ h
  exact .call hcall hreceiver hname hnone chain

/-- The third argument selects two names on the parameter. -/
theorem chain_of_parameter : unit.Chain 56 [54, 55] ["trim", "toUpperCase"] 54 :=
  chain_of_call (by decide) (chain_of_call (by decide) .start)

set_option maxRecDepth 100000 in
/-- The first argument selects two names on the text. -/
theorem chain_of_accesses : unit.Chain 22 [32, 33, 34] ["value", "name"] 32 := by
  have hreads : unit.access? 32 = some (33, "name") ∧ unit.access? 33 = some (34, "value") ∧
      unit.expression 34 = .variable x ∧ unit.valueSources x = [22] := by decide +kernel
  obtain ⟨hname, hvalue, hvariable, hsources⟩ := hreads
  exact .access hname (.access hvalue (.once hvariable rfl hsources .start))

end Trimmed

namespace CompilationUnit

open Trimmed in
set_option maxRecDepth 100000 in
/-- The selections on the parameter, replayed on the text, first trim it and then turn it to upper
case. -/
theorem selections_on_parameter :
    unit.planHooks {} false [] 54 = [.parameter 6 0 ["toUpperCase", "trim"]] ∧
      unit.resolveValue {} .algorithm ["toUpperCase", "trim"] 22 = [⟨.str "AES", 22⟩] := by
  have hreads : unit.IsPlain [54, 55] ∧ unit.expression 56 = .variable p ∧
      unit.parameterPosition? p = some (6, 0) ∧ (∀ m ∈ [54, 55, 56], unit.receiverEnum? m = none) ∧
      unit.expression 22 = .literal (.str " Aes ") := by decide +kernel
  obtain ⟨hplain, hvariable, hplace, henum, hliteral⟩ := hreads
  obtain ⟨-, hplans, hvalue⟩ := (selections_are_replayed {} .algorithm false chain_of_parameter
    hplain (by decide)).2 hvariable rfl hplace henum []
  refine ⟨hplans, (hvalue .start nofun (Nat.zero_le _) hliteral).trans ?_⟩
  decide +kernel

open Trimmed in
set_option maxRecDepth 100000 in
/-- **A member access is taken for an enum constant**: `x.value.name` selects two names on the text
that `x` is, but it has the value of the constant `name` of the enum `value`. -/
theorem access_is_taken_for_constant : ¬ ∀ (u : CompilationUnit) (config : ScanConfig)
    (factory : ValueFactory) (start n : NodeId) (path : List NodeId) (names : List String)
    (c : Constant), u.Chain start path names n → path.length ≤ config.maxResolutionDepth →
      u.expression start = .literal c →
        u.resolveValue config factory [] n = replay factory names c start := by
  intro h
  have hreads : unit.expression 22 = .literal (.str " Aes ") ∧
      unit.resolveValue {} .algorithm [] 32 ≠
        replay .algorithm ["value", "name"] (.str " Aes ") 22 := by decide +kernel
  exact hreads.2 (h unit {} .algorithm 22 32 _ _ (.str " Aes ") chain_of_accesses (by decide)
    hreads.1)

end CompilationUnit
end CryptoUsage
