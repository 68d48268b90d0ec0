import CryptoUsage.Proofs.Scan.Step

/-!
# Evaluating a rule is work for its root

Every function of the evaluation is a run of steps for the root of the store it is given, as long
as that store is one for which the rule was followed to the site at hand (`Ready`).  The theorems
go up the definitions, one for each: values, waiting and following in this file, and the rule
itself in the next.

What such a run keeps is the same for all functions: other trees are left alone, hooks are added
at the end, and there is a reason for each store and each observer that is new.

## How it goes

* States.  Handing an arena on twice is handing on the last one (`withStores_withStores`), and
  what a store has matched or may file stays so during a run (`Matched.runs`, `MayFile.runs`).
  For a list, `Runs.foldl` asks for one step after any run of earlier steps.
* Values.  Each reading is filed under its index or under a moved one (`storeReading_runs`).
* Waiting.  A plan becomes a hook of the kind that the unit offers (`offers_of_hookOf?`), and
  whoever waits there has a request that the rules justify.
* Following.  A new store is a follow-up of the store above it (`IsFollowUp`), blank until its
  rule matches.  The rule is then evaluated in a scope or at one node, where the trace has to
  admit the site; with the reason for which it is followed that makes it `Ready`.  `Evaluates`
  stands for the evaluation of what is followed, which is not yet known to be work for the root.
-/

set_option autoImplicit false

namespace CryptoUsage

namespace ScanState

variable (s : ScanState)

/-- Taking new stores twice is taking the last ones, as stores are only added. -/
theorem withStores_withStores {a b : Arena} (ha : s.stores.size ≤ a.size) (hb : a.size ≤ b.size) :
    (s.withStores a).withStores b = s.withStores b := by
  have hcreated : s.created + (a.size - s.stores.size) + (b.size - a.size) =
      s.created + (b.size - s.stores.size) := by omega
  simp only [withStores, hcreated]

@[simp] theorem stores_plan : s.plan.stores = s.stores := rfl

@[simp] theorem stores_start : s.start.stores = s.stores := rfl

theorem rootOf_eq {s : ScanState} {id : StoreId} {store : Store}
    (h : s.stores.store? id = some store) : s.rootOf id = store.root := by
  rw [rootOf, h, Option.map_some, Option.getD_some]

end ScanState

namespace Scan

variable {scan : Scan} {s s' : ScanState} {root : StoreId}

theorem Runs.foldl {α : Type} {f : ScanState → α → ScanState} {l : List α}
    (h : ∀ s', scan.Runs root s s' → ∀ a ∈ l, scan.Runs root s' (f s' a)) :
    scan.Runs root s (l.foldl f s) := by
  induction l generalizing s with
  | nil => exact .refl
  | cons a l ih =>
    have hfirst := h s .refl a List.mem_cons_self
    refine hfirst.trans (ih fun s' hruns b hb => ?_)
    exact h s' (hfirst.trans hruns) b (List.mem_cons_of_mem a hb)

theorem Matched.runs {id : StoreId} {ruleId : RuleId} {rule : Rule} {site : Site}
    (h : scan.Matched s root id ruleId rule site) (hruns : scan.Runs root s s') :
    scan.Matched s' root id ruleId rule site := h.grows hruns.works.grows

/-! ## Values -/

theorem MayFile.runs {id : StoreId} {ruleId : RuleId} {index : Int} {moveUnder : Option Int}
    (h : scan.MayFile s root id ruleId index moveUnder) (hruns : scan.Runs root s s') :
    scan.MayFile s' root id ruleId index moveUnder := by
  obtain ⟨rule, site, position, parameter, factory, matched, hrest⟩ := h.detectable
  exact ⟨rule, site, position, parameter, factory, matched.runs hruns, hrest⟩

theorem storeReading_runs {id : StoreId} {ruleId : RuleId} {index : Int} {moveUnder : Option Int}
    (h : scan.MayFile s root id ruleId index moveUnder) (factory : ValueFactory)
    (reading : Reading) :
    scan.Runs root s (scan.storeReading id index moveUnder factory s reading) := by
  rw [storeReading]
  cases factory.create? reading.constant (scan.unit.tree.location reading.node) with
  | none => exact .refl
  | some value =>
    cases moveUnder with
    | none =>
      simp only [Arena.receiveValue, if_true]
      exact .single (.file value h)
    | some target =>
      obtain ⟨rule, site, position, parameter, factory, matched, -⟩ := h.detectable
      obtain ⟨-, store, hid, -, rfl, -⟩ := matched
      have hne : s.stores.size ≠ id := Nat.ne_of_gt (Arena.lt_size_of_store? hid)
      simp only [Arena.receiveValue, hid, Arena.createChild_snd, if_neg hne]
      exact ((Relation.ReflTransGen.single (.move value h)).tail (.plan _)).tail (.start _)

theorem storeReadings_runs {id : StoreId} {ruleId : RuleId} {index : Int} {moveUnder : Option Int}
    (h : scan.MayFile s root id ruleId index moveUnder) (factory : ValueFactory)
    (readings : List Reading) :
    scan.Runs root s (scan.storeReadings id index moveUnder factory s readings) :=
  Runs.foldl fun _ hruns _ _ => storeReading_runs (h.runs hruns) ..

/-! ## Waiting -/

theorem offers_of_hookOf? {plan : HookPlan} {kind : HookKind} {selections : List String}
    (h : scan.hookOf? plan = some (kind, selections)) : scan.unit.Offers kind := by
  cases plan with
  | parameter method index selections =>
    obtain ⟨matcher, hmatcher, heq⟩ := Option.map_eq_some_iff.mp h
    obtain ⟨rfl, -⟩ := Prod.mk.inj heq
    exact hmatcher
  | result method selections =>
    obtain ⟨matcher, hmatcher, heq⟩ := Option.map_eq_some_iff.mp h
    obtain ⟨rfl, -⟩ := Prod.mk.inj heq
    exact hmatcher
  | enum name selections =>
    obtain ⟨rfl, -⟩ := Prod.mk.inj (Option.some.inj h)
    exact trivial

theorem waitFor_runs {observer : Observer} {plan : HookPlan}
    (h : ∀ {kind selections}, scan.hookOf? plan = some (kind, selections) →
      scan.Requests s kind { observer with selections })
    (hroot : observer.root = root) (hnow : observer.registeredAt = s.position) :
    scan.Runs root s (scan.waitFor observer s plan) := by
  rw [waitFor]
  cases hhook : scan.hookOf? plan with
  | none => exact .refl
  | some wanted =>
    obtain ⟨kind, selections⟩ := wanted
    exact .single (.wait (h hhook) hroot hnow)

/-- Waiting for everything that is planned, if it would be right to wait for any of it. -/
theorem waitFor_foldl_runs {observer : Observer} {plans : List HookPlan}
    (h : ∀ {plan kind selections}, plan ∈ plans → scan.hookOf? plan = some (kind, selections) →
      scan.Requests s kind { observer with selections })
    (hroot : observer.root = root) (hnow : observer.registeredAt = s.position) :
    scan.Runs root s (plans.foldl (scan.waitFor observer) s) := by
  refine Runs.foldl fun s' hruns plan hplan => waitFor_runs (fun hhook => ?_) hroot ?_
  · exact (h hplan hhook).grows hruns.works.grows (Nat.le_of_eq hruns.position_eq.symm)
  · rw [hnow, hruns.position_eq]

theorem detectValue_runs {id : StoreId} {ruleId : RuleId} {rule : Rule} {site : Site}
    {position : Nat} {parameter : Parameter} {factory : ValueFactory}
    (h : scan.Matched s root id ruleId rule site)
    (hparameter : rule.parameters[position]? = some parameter)
    (hrole : parameter.role = .detectable factory) (argument : NodeId) :
    scan.Runs root s (scan.detectValue id position parameter.moveUnder ⟨ruleId, position⟩ factory s
      argument) := by
  rw [detectValue]
  split
  · obtain ⟨hrule, store, hid, hroot, hrest⟩ := h
    have hrootOf : s.rootOf id = root := (ScanState.rootOf_eq hid).trans hroot
    refine waitFor_foldl_runs (fun {plan kind selections} _ hhook => ?_) hrootOf rfl
    refine ⟨offers_of_hookOf? hhook, Nat.le_refl _, Nat.zero_le _, ruleId, rule, site, position,
      parameter, ?_, hparameter, rfl, rfl, hrole, rfl⟩
    simp only [hrootOf]
    exact ⟨hrule, store, hid, hroot, hrest⟩
  · exact storeReadings_runs ⟨rule, site, position, parameter, factory, h, hparameter, hrole, rfl,
      rfl⟩ ..

/-! ## Following rules -/

/-- A store that was made to follow a rule: it is under a parent, and until its rule matches it is
blank. -/
structure IsFollowUp (s : ScanState) (root id parent : StoreId) (index : Int) (rule : RuleId)
    (hook : Option HookOrigin) : Prop where
  store_eq : ∃ store, s.stores.store? id = some store ∧ store.root = root ∧
    store.parent = some (parent, index) ∧ store.rule = rule ∧ store.hook = hook ∧
    (store.site = none → store.IsBlank)

theorem IsFollowUp.runs {id parent : StoreId} {index : Int} {rule : RuleId}
    {hook : Option HookOrigin} (h : IsFollowUp s root id parent index rule hook)
    (hruns : scan.Runs root s s') : IsFollowUp s' root id parent index rule hook := by
  obtain ⟨store, hid, hroot, hparent, hrule, hhook, hblank⟩ := h.store_eq
  obtain ⟨store', hid', hg⟩ := hruns.works.grows hid
  refine ⟨store', hid', hg.root.trans hroot, hg.parent.trans hparent, hg.rule.trans hrule,
    hg.hook.trans hhook, fun hsite => ?_⟩
  obtain rfl := hruns.unclaimed_eq hid hid' hsite
  exact hblank hsite

variable (scan) in
/-- The rule of a store may be evaluated at a site with a trace: the store is a fresh root, or one
made to follow a rule, and if the trace admits the site then following leads there. -/
structure Ready (s : ScanState) (root id : StoreId) (trace : Trace) (site : Site) : Prop where
  store_eq : ∃ store, s.stores.store? id = some store ∧ store.root = root ∧
    (store.site = none → store.IsBlank) ∧ (store.parent = none → store.site = none) ∧
    ∀ p i, store.parent = some (p, i) → ∃ aboveId above found,
      scan.Matched s root p aboveId above found ∧ (trace.admits (scan.binding site) = true →
        scan.Leads above found i store.rule store.hook site)

/-- Evaluating a rule is work for the root of its store. -/
def Evaluates (scan : Scan) (evaluate : Evaluator) : Prop :=
  ∀ {s root id trace site}, scan.Explained s → scan.Ready s root id trace site →
    scan.Runs root s (evaluate s id trace site)

theorem IsFollowUp.ready {id parent : StoreId} {index : Int} {child aboveId : RuleId}
    {hook : Option HookOrigin} {above : Rule} {found site : Site} {trace : Trace}
    (h : IsFollowUp s root id parent index child hook)
    (hmatched : scan.Matched s root parent aboveId above found)
    (hleads : trace.admits (scan.binding site) = true →
      scan.Leads above found index child hook site) : scan.Ready s root id trace site := by
  obtain ⟨store, hid, hroot, hparent, rfl, rfl, hblank⟩ := h.store_eq
  refine ⟨store, hid, hroot, hblank, fun hnone => ?_, fun p i hpar => ?_⟩
  · rw [hparent] at hnone
    cases hnone
  · obtain ⟨rfl, rfl⟩ := Prod.mk.inj (Option.some.inj (hparent.symm.trans hpar))
    exact ⟨aboveId, above, found, hmatched, hleads⟩

/-- Evaluating a followed rule at all the sites of a subtree, if following leads to those that the
trace admits. -/
theorem evaluateIn_runs {evaluate : Evaluator} (he : scan.Evaluates evaluate)
    (hs : scan.Explained s) {id parent : StoreId} {index : Int} {child aboveId : RuleId}
    {hook : Option HookOrigin} {above : Rule} {found : Site} {trace : Trace} {scope : NodeId}
    (h : IsFollowUp s root id parent index child hook)
    (hmatched : scan.Matched s root parent aboveId above found)
    (hleads : ∀ site ∈ scan.unit.sitesIn scope, trace.admits (scan.binding site) = true →
      scan.Leads above found index child hook site) :
    scan.Runs root s (scan.evaluateIn evaluate trace scope s id) := by
  have hstart : scan.Runs root s s.start := .single (.start s)
  refine hstart.trans (Runs.foldl fun s' hruns site hsite => ?_)
  have hall := hstart.trans hruns
  exact he (Runs.explained hall hs)
    ((h.runs hall).ready (hmatched.runs hall) (hleads site hsite))

/-- Evaluating a followed rule at a node, if following leads to the site there. -/
theorem evaluateAt_runs {evaluate : Evaluator} (he : scan.Evaluates evaluate)
    (hs : scan.Explained s) {id : StoreId} {trace : Trace} {n : NodeId}
    (h : ∀ {site}, scan.unit.site? n = some site → scan.Ready s.start root id trace site) :
    scan.Runs root s (scan.evaluateAt evaluate trace n s id) := by
  have hstart : scan.Runs root s s.start := .single (.start s)
  rw [evaluateAt]
  split
  · next site hsite => exact hstart.trans (he (Runs.explained hstart hs) (h hsite))
  · exact hstart

/-- Following a rule makes a store for it and works there. -/
theorem follow_runs {run : ScanState → StoreId → ScanState} {parent : StoreId} {index : Int}
    {child aboveId : RuleId} {hook : Option HookOrigin} {above : Rule} {found : Site}
    (hmatched : scan.Matched s root parent aboveId above found)
    (hfollows : scan.Follows above found index child hook)
    (hrooted : ∀ origin, hook = some origin → origin.hookRoot = s.stores.hookRoot parent)
    (hrun : ∀ {s' id}, scan.Runs root s s' → IsFollowUp s' root id parent index child hook →
      scan.Runs root s' (run s' id)) :
    scan.Runs root s (follow run parent index hook s child) := by
  have hmade : scan.Runs root s
      (s.withStores (s.stores.createChild parent index child hook).1).plan :=
    (Relation.ReflTransGen.single (.follow hmatched hfollows hrooted)).tail (.plan _)
  refine hmade.trans (hrun hmade ?_)
  obtain ⟨-, store, hparent, hroot, -⟩ := hmatched
  refine ⟨_, Arena.store?_createChild_new hparent .., hroot, rfl, rfl, rfl, fun _ => ?_⟩
  exact Store.isBlank_under ..

/-- Following rules one after the other. -/
theorem follow_foldl_runs {run : ScanState → StoreId → ScanState} (hs : scan.Explained s)
    {parent : StoreId} {index : Int} {rules : List RuleId} {aboveId : RuleId}
    {hook : Option HookOrigin} {above : Rule} {found : Site}
    (hmatched : scan.Matched s root parent aboveId above found)
    (hfollows : ∀ child ∈ rules, scan.Follows above found index child hook)
    (hrooted : ∀ origin, hook = some origin → origin.hookRoot = s.stores.hookRoot parent)
    (hrun : ∀ {s' id child}, child ∈ rules → scan.Runs root s s' →
      IsFollowUp s' root id parent index child hook → scan.Runs root s' (run s' id)) :
    scan.Runs root s (rules.foldl (follow run parent index hook) s) := by
  refine Runs.foldl ?_
  intro s' hruns child hchild
  have hs' := hruns.explained hs
  refine follow_runs (hmatched.runs hruns) (hfollows child hchild) (fun origin hhook => ?_)
    fun hruns' hid => hrun hchild (hruns.trans hruns') hid
  obtain ⟨-, store, hparent, -⟩ := hmatched
  rw [hrooted origin hhook, hruns.works.grows.hookRoot_eq hs.linked hs'.linked hparent]

/-- Where next rules are followed, the site is no argument. -/
theorem isArgument_of_nextTrace {site : Site} (h : scan.nextTrace site ≠ .different) :
    scan.isArgument site.node = false := by
  refine Bool.eq_false_iff.mpr fun hargument => h ?_
  rw [nextTrace, if_pos hargument]

theorem followNext_runs {evaluate : Evaluator} (he : scan.Evaluates evaluate)
    (hs : scan.Explained s) {id : StoreId} {ruleId : RuleId} {rule : Rule} {site : Site}
    (h : scan.Matched s root id ruleId rule site) :
    scan.Runs root s (scan.followNext evaluate id rule site s) := by
  rw [followNext]
  generalize hscope : scan.unit.enclosingScope site.node = scope
  cases htrace : scan.nextTrace site with
  | different => exact .refl
  | _ =>
    have hnot := isArgument_of_nextTrace (by rw [htrace]; nofun)
    refine follow_foldl_runs hs h (fun child hchild => .next hchild hnot) nofun
      fun hchild hruns hid => ?_
    refine evaluateIn_runs he (hruns.explained hs) hid (h.runs hruns) ?_
    intro found hfound hadmits
    exact .next hchild hnot (hscope ▸ hfound) (htrace ▸ hadmits)

theorem Supplies.awaits {site : Site} {position : Nat} {origin : Option HookOrigin}
    {argument method : NodeId} {place : Nat} {matcher : MethodMatcher}
    (h : scan.Supplies site position origin argument)
    (hparameter : scan.IsParameterOf argument method place)
    (hmatcher : scan.unit.methodMatcher? method = some matcher) :
    scan.Awaits site position (.parameter method matcher place) := by
  cases h with
  | direct argument_eq => exact .first argument_eq hparameter hmatcher
  | hooked awaits trigger_eq fires argument_eq =>
    exact .onward awaits fires argument_eq hparameter hmatcher

/-- Depending rules are followed from an argument, or wait for one. -/
theorem followDepending_runs {evaluate : Evaluator} (he : scan.Evaluates evaluate)
    (hs : scan.Explained s) {requester : StoreId} {ruleId : RuleId} {rule : Rule} {site : Site}
    {position : Nat} {parameter : Parameter} {rules : List RuleId} {origin : Option HookOrigin}
    {chain : Nat} {argument : NodeId} (h : scan.Matched s root requester ruleId rule site)
    (hparameter : rule.parameters[position]? = some parameter)
    (hrole : parameter.role = .depending rules)
    (hsupplies : scan.Supplies site position origin argument)
    (hrooted : ∀ from_, origin = some from_ → from_.hookRoot = s.stores.hookRoot requester) :
    scan.Runs root s
      (scan.followDepending evaluate requester position rules origin chain s argument) := by
  have hfollows : ∀ child ∈ rules, scan.Follows rule site position child origin :=
    fun child hchild => .depending hparameter hrole hchild hsupplies
  have hleads : ∀ {child found}, child ∈ rules → scan.Reaches argument found →
      scan.Leads rule site position child origin found :=
    fun hchild hreached => .depending hparameter hrole hchild hsupplies hreached
  simp only [followDepending]
  split
  · next call hcall =>
    refine follow_foldl_runs hs h hfollows hrooted fun {s' id child} hchild hruns hid => ?_
    have hstart : scan.Runs root s' s'.start := .single (.start s')
    refine evaluateAt_runs he (hruns.explained hs) fun hsite => ?_
    exact (hid.runs hstart).ready (h.runs (hruns.trans hstart)) fun _ =>
      hleads hchild (.call hcall hsite)
  · next symbol hvariable =>
    split
    · next hkind =>
      split
      · next method place hplace =>
        split
        · next hchain =>
          obtain ⟨hrule, store, hid, hroot, hrest⟩ := h
          have hrootOf : s.rootOf requester = root := (ScanState.rootOf_eq hid).trans hroot
          refine waitFor_runs (fun {kind selections} hhook => ?_) hrootOf rfl
          obtain ⟨matcher, hmatcher, heq⟩ := Option.map_eq_some_iff.mp hhook
          obtain ⟨rfl, rfl⟩ := Prod.mk.inj heq
          refine ⟨hmatcher, Nat.le_refl _, Nat.le_of_lt hchain, ruleId, rule, site, position,
            parameter, ?_, hparameter, rfl, hrole, ?_⟩
          · simp only [hrootOf]
            exact ⟨hrule, store, hid, hroot, hrest⟩
          · exact hsupplies.awaits ⟨symbol, hvariable, hkind, hplace⟩ hmatcher
        · exact .refl
      · exact .refl
    · next hkind =>
      refine follow_foldl_runs hs h hfollows hrooted fun hchild hruns hid => ?_
      refine evaluateIn_runs he (hruns.explained hs) hid (h.runs hruns)
        fun found hfound hadmits => ?_
      exact hleads hchild (.variable hvariable hkind hfound hadmits)
  · exact .refl

end Scan

end CryptoUsage
