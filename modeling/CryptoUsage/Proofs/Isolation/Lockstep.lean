import CryptoUsage.Proofs.Hooks.Mirroring
import CryptoUsage.Proofs.Scan.Evaluating

/-!
# The same work in two states

What evaluating a rule and serving an observer do depends on the tree at hand only, and on what
waits on its behalf: not on the places of stores, nor on the numbers of observers, nor on anything
that was made for other trees.  So if the stores and observers of one state stand in another one
(`Mirrors`), then doing the same in both makes the same of them (`Mirrored`).

## How it is put together

`Mirrors` is made of the relations for arenas and repositories, and `Continues` says that the
renamings were prolonged, so that what stood for something still does.  `Mirrored` hides the
prolonged renamings behind an existential; work in two parts is put together by `Mirrored.bind`,
and work along a list by `Mirrors.foldl`.

There is then one theorem for each function of the evaluation, from the bottom up: storing what
was read (`storeReading_mirrored`), waiting (`waitFor_mirrored`), following rules
(`follow_mirrored`, `followNext_mirrored`, `followDepending_mirrored`), and a rule at a site
(`takeSite_mirrored`).  Whether a rule takes a site has the same answer in both (`takes_eq`), as
the way up from a store is renamed and nothing on it is forgotten.

The evaluation calls itself.  `EvaluatesAlike` is the property of an evaluator, one round of the
evaluation keeps it (`evaluateBy_alike`), and so every number of rounds has it
(`evaluate_alike`).  Serving an observer is made of the same parts (`deliver_mirrored`).
-/

set_option autoImplicit false

namespace CryptoUsage
namespace Scan

variable {scan : Scan} {f f' : StoreId → StoreId} {g g' : ObserverId → ObserverId}
  {s s' t t' : ScanState} {x y : StoreId}

/-! ## States that stand in others -/

variable (scan) in
/-- The stores and observers of `t` stand in `s`, in the places and under the numbers given. -/
structure Mirrors (f : StoreId → StoreId) (g : ObserverId → ObserverId) (s t : ScanState) :
    Prop where
  stores : Arena.Mirrors f s.stores t.stores
  hooks : HookRepository.Mirrors f s.stores.size t.stores.size g s.hooks t.hooks
  offers : ∀ kind ∈ s.hooks.kinds, scan.unit.Offers kind
  position_eq : s.position = t.position

/-- Renamings from one pair of states are prolonged to a later one. -/
structure Continues (f : StoreId → StoreId) (g : ObserverId → ObserverId) (s t : ScanState)
    (f' : StoreId → StoreId) (g' : ObserverId → ObserverId) (s' t' : ScanState) : Prop where
  stores : Prolongs f s.stores.size t.stores.size f' s'.stores.size t'.stores.size
  numbers : Prolongs g s.hooks.nextObserver t.hooks.nextObserver g' s'.hooks.nextObserver
    t'.hooks.nextObserver

variable (scan) in
/-- The states `s'` and `t'` come from `s` and `t` by the same work. -/
def Mirrored (f : StoreId → StoreId) (g : ObserverId → ObserverId) (s t s' t' : ScanState) : Prop :=
  ∃ f' g', Continues f g s t f' g' s' t' ∧ scan.Mirrors f' g' s' t'

theorem Continues.refl (f : StoreId → StoreId) (g : ObserverId → ObserverId) (s t : ScanState) :
    Continues f g s t f g s t := ⟨.refl .., .refl ..⟩

theorem Continues.trans {f'' : StoreId → StoreId} {g'' : ObserverId → ObserverId}
    {s'' t'' : ScanState} (h : Continues f g s t f' g' s' t')
    (h' : Continues f' g' s' t' f'' g'' s'' t'') : Continues f g s t f'' g'' s'' t'' :=
  ⟨h.stores.trans h'.stores, h.numbers.trans h'.numbers⟩

theorem Mirrors.refl (h : scan.Mirrors f g s t) : scan.Mirrored f g s t s t := ⟨f, g, .refl .., h⟩

/-- What is the same work from a later pair of states is so from an earlier one. -/
theorem Continues.mirrored {s'' t'' : ScanState} (h : Continues f g s t f' g' s' t')
    (hnext : scan.Mirrored f' g' s' t' s'' t'') : scan.Mirrored f g s t s'' t'' := by
  obtain ⟨f'', g'', hc, hm⟩ := hnext
  exact ⟨f'', g'', h.trans hc, hm⟩

/-- More of the same work. -/
theorem Mirrored.bind {s'' t'' : ScanState} (h : scan.Mirrored f g s t s' t')
    (hnext : ∀ {f' g'}, Continues f g s t f' g' s' t' → scan.Mirrors f' g' s' t' →
      scan.Mirrored f' g' s' t' s'' t'') : scan.Mirrored f g s t s'' t'' := by
  obtain ⟨f', g', hc, hm⟩ := h
  exact hc.mirrored (hnext hc hm)

theorem Mirrors.foldl {α : Type} {φ ψ : ScanState → α → ScanState} {l : List α}
    (h : scan.Mirrors f g s t)
    (hstep : ∀ {f' g' s' t'}, Continues f g s t f' g' s' t' → scan.Mirrors f' g' s' t' → ∀ a ∈ l,
      scan.Mirrored f' g' s' t' (φ s' a) (ψ t' a)) :
    scan.Mirrored f g s t (l.foldl φ s) (l.foldl ψ t) := by
  induction l generalizing f g s t with
  | nil => exact h.refl
  | cons a l ih =>
    refine (hstep (.refl ..) h a List.mem_cons_self).bind fun hc hm => ih hm ?_
    exact fun hc' hm' b hb => hstep (hc.trans hc') hm' b (List.mem_cons_of_mem a hb)

theorem Mirrors.plan (h : scan.Mirrors f g s t) : scan.Mirrored f g s t s.plan t.plan :=
  ⟨f, g, ⟨.refl .., .refl ..⟩, h.stores, h.hooks, h.offers, h.position_eq⟩

theorem Mirrors.start (h : scan.Mirrors f g s t) : scan.Mirrored f g s t s.start t.start :=
  ⟨f, g, ⟨.refl .., .refl ..⟩, h.stores, h.hooks, h.offers, h.position_eq⟩

theorem Mirrored.plan (h : scan.Mirrored f g s t s' t') : scan.Mirrored f g s t s'.plan t'.plan :=
  h.bind fun _ hm => hm.plan

theorem Mirrored.start (h : scan.Mirrored f g s t s' t') :
    scan.Mirrored f g s t s'.start t'.start := h.bind fun _ hm => hm.start

/-- The stores change alike. -/
theorem Mirrors.withStores (h : scan.Mirrors f g s t) {a b : Arena}
    (hf : Prolongs f s.stores.size t.stores.size f' a.size b.size) (hab : Arena.Mirrors f' a b) :
    Continues f g s t f' g (s.withStores a) (t.withStores b) ∧
      scan.Mirrors f' g (s.withStores a) (t.withStores b) :=
  ⟨⟨hf, .refl ..⟩, hab, h.hooks.prolong hf, h.offers, h.position_eq⟩

/-- The stores change alike and stay where they are. -/
theorem Mirrors.modify (h : scan.Mirrors f g s t) {a b : Arena} (ha : a.size = s.stores.size)
    (hb : b.size = t.stores.size) (hab : Arena.Mirrors f a b) :
    scan.Mirrored f g s t (s.withStores a) (t.withStores b) :=
  ⟨f, g, h.withStores (by rw [ha, hb]; exact .refl ..) hab⟩

/-! ## Values -/

theorem storeReading_mirrored (h : scan.Mirrors f g s t) (hx : Stands f t.stores.size x y)
    (index : Int) (moveUnder : Option Int) (factory : ValueFactory) (reading : Reading) :
    scan.Mirrored f g s t (scan.storeReading x index moveUnder factory s reading)
      (scan.storeReading y index moveUnder factory t reading) := by
  rw [storeReading, storeReading]
  cases factory.create? reading.constant (scan.unit.tree.location reading.node) with
  | none => exact h.refl
  | some value =>
    obtain ⟨f', hf, hab, hstands⟩ := h.stores.receiveValue hx index moveUnder value
    have hmoved : scan.Mirrored f g s t
        (s.withStores (s.stores.receiveValue x index moveUnder value).1)
        (t.withStores (t.stores.receiveValue y index moveUnder value).1) :=
      ⟨f', g, h.withStores hf hab⟩
    have hx' := hf.stands hx
    have hiff : (s.stores.receiveValue x index moveUnder value).2 = x ↔
        (t.stores.receiveValue y index moveUnder value).2 = y := by
      rw [← hstands.eq, ← hx'.eq]
      exact ⟨hab.embeds.injective hstands.lt hx'.lt, congrArg f'⟩
    simp only [hiff]
    split
    · exact hmoved
    · exact hmoved.plan.start

theorem storeReadings_mirrored (h : scan.Mirrors f g s t) (hx : Stands f t.stores.size x y)
    (index : Int) (moveUnder : Option Int) (factory : ValueFactory) (readings : List Reading) :
    scan.Mirrored f g s t (scan.storeReadings x index moveUnder factory s readings)
      (scan.storeReadings y index moveUnder factory t readings) :=
  h.foldl fun hc hm reading _ =>
    storeReading_mirrored hm (hc.stores.stands hx) index moveUnder factory reading

/-! ## Waiting -/

/-- An observer stands for another one. -/
structure ObserverStands (f : StoreId → StoreId) (count : Nat) (observer' observer : Observer) :
    Prop where
  requester_lt : observer.requester < count
  root_lt : observer.root < count
  eq : observer' = observer.rename f

theorem ObserverStands.prolong {m n m' n' : Nat} {observer' observer : Observer}
    (h : ObserverStands f n observer' observer) (hf : Prolongs f m n f' m' n') :
    ObserverStands f' n' observer' observer where
  requester_lt := Nat.lt_of_lt_of_le h.requester_lt hf.source_le
  root_lt := Nat.lt_of_lt_of_le h.root_lt hf.source_le
  eq := by
    rw [h.eq, Observer.rename, Observer.rename, hf.eq h.requester_lt, hf.eq h.root_lt]

namespace ObserverStands

variable {count : Nat} {observer' observer : Observer}

theorem requester (h : ObserverStands f count observer' observer) :
    Stands f count observer'.requester observer.requester := by
  rw [h.eq]
  exact ⟨h.requester_lt, rfl⟩

theorem payload_eq (h : ObserverStands f count observer' observer) :
    observer'.payload = observer.payload := by rw [h.eq]; rfl

theorem selections_eq (h : ObserverStands f count observer' observer) :
    observer'.selections = observer.selections := by rw [h.eq]; rfl

theorem chain_eq (h : ObserverStands f count observer' observer) :
    observer'.chain = observer.chain := by rw [h.eq]; rfl

end ObserverStands

theorem waitFor_mirrored (h : scan.Mirrors f g s t) {observer' observer : Observer}
    (hobserver : ObserverStands f t.stores.size observer' observer) (plan : HookPlan) :
    scan.Mirrored f g s t (scan.waitFor observer' s plan) (scan.waitFor observer t plan) := by
  rw [waitFor, waitFor, hobserver.eq]
  cases hhook : scan.hookOf? plan with
  | none => exact h.refl
  | some wanted =>
    obtain ⟨kind, selections⟩ := wanted
    have hoffers := offers_of_hookOf? hhook
    have htarget : ∀ other ∈ s.hooks.kinds, other.sameTarget kind = true → other = kind :=
      fun other hother => (h.offers other hother).eq_of_sameTarget hoffers
    obtain ⟨g', hg, hhooks⟩ := h.hooks.register { observer with selections } htarget
      h.stores.embeds.injective h.stores.embeds.lt_size hobserver.requester_lt hobserver.root_lt
    refine ⟨f, g', ⟨.refl .., hg⟩, h.stores, hhooks, fun other hother => ?_, h.position_eq⟩
    rcases HookRepository.kinds_register s.hooks kind
        (Observer.rename f { observer with selections }) with heq | heq
    · exact h.offers other (heq ▸ hother)
    · have hmem : other ∈ s.hooks.kinds ++ [kind] := heq ▸ hother
      rcases List.mem_append.mp hmem with hold | hnew
      · exact h.offers other hold
      · exact List.mem_singleton.mp hnew ▸ hoffers

theorem waitFor_foldl_mirrored (h : scan.Mirrors f g s t) {observer' observer : Observer}
    (hobserver : ObserverStands f t.stores.size observer' observer) (plans : List HookPlan) :
    scan.Mirrored f g s t (plans.foldl (scan.waitFor observer') s)
      (plans.foldl (scan.waitFor observer) t) :=
  h.foldl fun hc hm plan _ => waitFor_mirrored hm (hobserver.prolong hc.stores) plan

/-- A request made now on behalf of stores that stand for each other. -/
theorem Mirrors.observerStands (h : scan.Mirrors f g s t) (hx : Stands f t.stores.size x y)
    (payload : HookPayload) (chain : Nat) :
    ObserverStands f t.stores.size
      { requester := x, root := s.rootOf x, payload, chain, registeredAt := s.position }
      { requester := y, root := t.rootOf y, payload, chain, registeredAt := t.position } := by
  obtain ⟨store, hy, hx'⟩ := h.stores.exists_store hx
  obtain ⟨-, top, htop, -⟩ := h.stores.linked'.exists_root hy
  refine ⟨hx.lt, ?_, ?_⟩
  · rw [ScanState.rootOf_eq hy]
    exact Arena.lt_size_of_store? htop
  · rw [ScanState.rootOf_eq hy, ScanState.rootOf_eq hx', h.position_eq, Observer.rename, hx.eq]
    rfl

theorem detectValue_mirrored (h : scan.Mirrors f g s t) (hx : Stands f t.stores.size x y)
    (index : Int) (moveUnder : Option Int) (factoryId : FactoryId) (factory : ValueFactory)
    (argument : NodeId) :
    scan.Mirrored f g s t (scan.detectValue x index moveUnder factoryId factory s argument)
      (scan.detectValue y index moveUnder factoryId factory t argument) := by
  rw [detectValue, detectValue]
  cases scan.unit.resolveValue scan.config factory [] argument with
  | nil =>
    exact waitFor_foldl_mirrored h
      (h.observerStands hx (.value index factoryId factory moveUnder) 0) _
  | cons reading readings => exact storeReadings_mirrored h hx index moveUnder factory _

/-! ## Following rules -/

variable (scan) in
/-- An evaluator does the same in states that stand for each other. -/
def EvaluatesAlike (evaluate : Evaluator) : Prop :=
  ∀ {f g s t x y}, scan.Mirrors f g s t → Stands f t.stores.size x y → ∀ trace site,
    scan.Mirrored f g s t (evaluate s x trace site) (evaluate t y trace site)

theorem evaluateAt_mirrored {evaluate : Evaluator} (he : scan.EvaluatesAlike evaluate)
    (h : scan.Mirrors f g s t) (hx : Stands f t.stores.size x y) (trace : Trace) (n : NodeId) :
    scan.Mirrored f g s t (scan.evaluateAt evaluate trace n s x)
      (scan.evaluateAt evaluate trace n t y) := by
  rw [evaluateAt, evaluateAt]
  cases scan.unit.site? n with
  | none => exact h.start
  | some site => exact h.start.bind fun hc hm => he hm (hc.stores.stands hx) trace site

theorem evaluateIn_mirrored {evaluate : Evaluator} (he : scan.EvaluatesAlike evaluate)
    (h : scan.Mirrors f g s t) (hx : Stands f t.stores.size x y) (trace : Trace) (scope : NodeId) :
    scan.Mirrored f g s t (scan.evaluateIn evaluate trace scope s x)
      (scan.evaluateIn evaluate trace scope t y) :=
  h.start.bind fun hc hm => hm.foldl fun hc' hm' site _ =>
    he hm' ((hc.trans hc').stores.stands hx) trace site

theorem follow_mirrored {run : ScanState → StoreId → ScanState} (h : scan.Mirrors f g s t)
    (hx : Stands f t.stores.size x y) (index : Int) {origin' origin : Option HookOrigin}
    (horigin : Arena.OriginStands f t.stores.size origin' origin) (rule : RuleId)
    (hrun : ∀ {f' g' s' t' x' y'}, scan.Mirrors f' g' s' t' → Stands f' t'.stores.size x' y' →
      scan.Mirrored f' g' s' t' (run s' x') (run t' y')) :
    scan.Mirrored f g s t (follow run x index origin' s rule)
      (follow run y index origin t rule) := by
  obtain ⟨f', hf, hab, hstands⟩ := h.stores.createChild hx index rule horigin
  obtain ⟨hc, hm⟩ := h.withStores hf hab
  exact hc.mirrored (hm.plan.bind fun hc' hm' => hrun hm' (hc'.stores.stands hstands))

theorem follow_foldl_mirrored {run : ScanState → StoreId → ScanState} (h : scan.Mirrors f g s t)
    (hx : Stands f t.stores.size x y) (index : Int) {origin' origin : Option HookOrigin}
    (horigin : Arena.OriginStands f t.stores.size origin' origin) (rules : List RuleId)
    (hrun : ∀ {f' g' s' t' x' y'}, scan.Mirrors f' g' s' t' → Stands f' t'.stores.size x' y' →
      scan.Mirrored f' g' s' t' (run s' x') (run t' y')) :
    scan.Mirrored f g s t (rules.foldl (follow run x index origin') s)
      (rules.foldl (follow run y index origin) t) :=
  h.foldl fun hc hm rule _ =>
    follow_mirrored hm (hc.stores.stands hx) index (horigin.prolong hc.stores) rule hrun

theorem followNext_mirrored {evaluate : Evaluator} (he : scan.EvaluatesAlike evaluate)
    (h : scan.Mirrors f g s t) (hx : Stands f t.stores.size x y) (rule : Rule) (site : Site) :
    scan.Mirrored f g s t (scan.followNext evaluate x rule site s)
      (scan.followNext evaluate y rule site t) := by
  rw [followNext, followNext]
  cases scan.nextTrace site with
  | different => exact h.refl
  | _ =>
    exact follow_foldl_mirrored h hx methodLevel (.none ..) rule.next fun hm hx' =>
      evaluateIn_mirrored he hm hx' _ _

theorem followDepending_mirrored {evaluate : Evaluator} (he : scan.EvaluatesAlike evaluate)
    (h : scan.Mirrors f g s t) (hx : Stands f t.stores.size x y) (index : Int) (rules : List RuleId)
    {origin' origin : Option HookOrigin}
    (horigin : Arena.OriginStands f t.stores.size origin' origin) (chain : Nat)
    (argument : NodeId) :
    scan.Mirrored f g s t
      (scan.followDepending evaluate x index rules origin' chain s argument)
      (scan.followDepending evaluate y index rules origin chain t argument) := by
  simp only [followDepending]
  cases scan.unit.expression (scan.unwrap argument) with
  | call site =>
    exact follow_foldl_mirrored h hx index horigin rules fun hm hx' =>
      evaluateAt_mirrored he hm hx' .start _
  | «variable» symbol =>
    simp only
    by_cases hparameter : symbol.kind = .parameter
    · rw [if_pos hparameter, if_pos hparameter]
      cases scan.unit.parameterPosition? symbol with
      | none => exact h.refl
      | some found =>
        obtain ⟨method, position⟩ := found
        simp only
        split
        · exact waitFor_mirrored h (h.observerStands hx (.follow index rules) chain) _
        · exact h.refl
    · rw [if_neg hparameter, if_neg hparameter]
      exact follow_foldl_mirrored h hx index horigin rules fun hm hx' =>
        evaluateIn_mirrored he hm hx' (.on symbol) _
  | _ => exact h.refl

/-! ## A rule at a site -/

theorem takes_eq (h : scan.Mirrors f g s t) (hx : Stands f t.stores.size x y) {store : Store}
    (hy : t.stores.store? y = some store) (rule : Rule) (trace : Trace) (site : Site) :
    scan.takes s x (store.rename f) rule trace site = scan.takes t y store rule trace site := by
  have hclaimed : s.stores.isClaimedOnPath x (store.rename f).rule site =
      t.stores.isClaimedOnPath y store.rule site := by
    rw [← hx.eq]
    exact h.stores.embeds.isClaimedOnPath_eq h.stores.linked h.stores.linked' hy store.rule site
  rw [takes, takes, hclaimed]
  rfl

theorem claim_mirrored (h : scan.Mirrors f g s t) (hx : Stands f t.stores.size x y) (site : Site) :
    ∃ f' g', Continues f g s t f' g' (s.claim x site).1 (t.claim y site).1 ∧
      scan.Mirrors f' g' (s.claim x site).1 (t.claim y site).1 ∧
      Stands f' (t.claim y site).1.stores.size (s.claim x site).2 (t.claim y site).2 := by
  obtain ⟨f', hf, hab, hstands⟩ := h.stores.claim hx site
  obtain ⟨hc, hm⟩ := h.withStores hf hab
  have hx' := hf.stands hx
  have hiff : (s.stores.claim x site).2 = x ↔ (t.stores.claim y site).2 = y := by
    rw [← hstands.eq, ← hx'.eq]
    exact ⟨hab.embeds.injective hstands.lt hx'.lt, congrArg f'⟩
  simp only [ScanState.claim, hiff]
  split
  · exact ⟨f', g, hc, hm, hstands⟩
  · obtain ⟨f'', g'', hc', hm'⟩ := hm.plan.start
    exact ⟨f'', g'', hc.trans hc', hm', hc'.stores.stands hstands⟩

theorem readArgument_mirrored {evaluate : Evaluator} (he : scan.EvaluatesAlike evaluate)
    (h : scan.Mirrors f g s t) (hx : Stands f t.stores.size x y) (ruleId : RuleId)
    (entry : (Parameter × NodeId) × Nat) :
    scan.Mirrored f g s t (scan.readArgument evaluate x ruleId s entry)
      (scan.readArgument evaluate y ruleId t entry) := by
  obtain ⟨⟨parameter, argument⟩, position⟩ := entry
  simp only [readArgument]
  cases parameter.role with
  | typeOnly => exact h.refl
  | detectable factory => exact detectValue_mirrored h hx ..
  | depending rules => exact followDepending_mirrored he h hx position rules (.none ..) 0 argument

theorem takeSite_mirrored {evaluate : Evaluator} (he : scan.EvaluatesAlike evaluate)
    (h : scan.Mirrors f g s t) (hx : Stands f t.stores.size x y) (ruleId : RuleId) (rule : Rule)
    (site : Site) :
    scan.Mirrored f g s t (scan.takeSite evaluate s x ruleId rule site)
      (scan.takeSite evaluate t y ruleId rule site) := by
  obtain ⟨f', g', hc, hm, hstands⟩ := claim_mirrored h hx site
  simp only [takeSite]
  generalize s.claim x site = p at hc hm hstands ⊢
  generalize t.claim y site = q at hc hm hstands ⊢
  obtain ⟨s', x'⟩ := p
  obtain ⟨t', y'⟩ := q
  have hreceived := hm.stores.receiveMethod hstands site (scan.actionOf? rule site)
  have hgiven := hm.modify (Arena.size_modify ..) (Arena.size_modify ..) hreceived
  have hfollowed := hgiven.bind fun hc' hm' =>
    followNext_mirrored he hm' (hc'.stores.stands hstands) rule site
  refine hc.mirrored ?_
  split
  · exact hfollowed
  · exact hfollowed.bind fun hc' hm' => hm'.foldl fun hc'' hm'' entry _ =>
      readArgument_mirrored he hm'' ((hc'.trans hc'').stores.stands hstands) ruleId entry

theorem evaluateBy_alike {evaluate : Evaluator} (he : scan.EvaluatesAlike evaluate) :
    scan.EvaluatesAlike (scan.evaluateBy evaluate) := by
  intro f g s t x y h hx trace site
  obtain ⟨store, hy, hx'⟩ := h.stores.exists_store hx
  have hrule : (store.rename f).rule = store.rule := rfl
  simp only [evaluateBy, hy, hx', hrule]
  cases scan.catalog.rule? store.rule with
  | none => exact h.refl
  | some rule =>
    simp only [takes_eq h hx hy]
    split
    · exact takeSite_mirrored he h hx store.rule rule site
    · exact h.refl

theorem evaluateWithin_alike (scan : Scan) (steps : Nat) :
    scan.EvaluatesAlike (scan.evaluateWithin steps) := by
  induction steps with
  | zero => exact fun h _ _ _ => h.refl
  | succ steps ih => exact evaluateBy_alike ih

/-- **Evaluating a rule does the same in states that stand for each other.** -/
theorem evaluate_alike (scan : Scan) : scan.EvaluatesAlike scan.evaluate :=
  evaluateWithin_alike scan scan.catalog.size

/-! ## Serving observers -/

theorem passOn_mirrored (h : scan.Mirrors f g s t) {observer' observer : Observer}
    (hobserver : ObserverStands f t.stores.size observer' observer) (size : Bool)
    (argument : NodeId) :
    scan.Mirrored f g s t (scan.passOn observer' size argument s)
      (scan.passOn observer size argument t) := by
  obtain ⟨hrequester, hroot, rfl⟩ := hobserver
  have hnext : ObserverStands f t.stores.size
      { observer.rename f with chain := observer.chain + 1, registeredAt := s.position }
      { observer with chain := observer.chain + 1, registeredAt := t.position } :=
    ⟨hrequester, hroot, by rw [h.position_eq]; rfl⟩
  have hchain : (observer.rename f).chain = observer.chain := rfl
  simp only [passOn, hchain]
  split
  · exact h.refl
  · exact waitFor_foldl_mirrored h hnext _

theorem deliverValue_mirrored (h : scan.Mirrors f g s t) {observer' observer : Observer}
    (hobserver : ObserverStands f t.stores.size observer' observer) (kind : HookKind) (index : Int)
    (factory : ValueFactory) (moveUnder : Option Int) (trigger : Site) :
    scan.Mirrored f g s t
        (scan.deliverValue kind observer' index factory moveUnder trigger s).1
        (scan.deliverValue kind observer index factory moveUnder trigger t).1 ∧
      (scan.deliverValue kind observer' index factory moveUnder trigger s).2 =
        (scan.deliverValue kind observer index factory moveUnder trigger t).2 := by
  rw [deliverValue, deliverValue, hobserver.selections_eq]
  cases scan.readingsFor? kind factory observer.selections trigger with
  | none => exact ⟨h.refl, rfl⟩
  | some found =>
    obtain ⟨_ | ⟨reading, readings⟩, _ | argument⟩ := found
    · exact ⟨h.refl, rfl⟩
    · exact ⟨passOn_mirrored h hobserver factory.isSize argument, rfl⟩
    · exact ⟨storeReadings_mirrored h hobserver.requester index moveUnder factory _, rfl⟩
    · exact ⟨storeReadings_mirrored h hobserver.requester index moveUnder factory _, rfl⟩

theorem deliverRules_mirrored (h : scan.Mirrors f g s t) {observer' observer : Observer}
    (hobserver : ObserverStands f t.stores.size observer' observer) (kind : HookKind) (index : Int)
    (rules : List RuleId) (trigger : Site) :
    scan.Mirrored f g s t (scan.deliverRules kind observer' index rules trigger s).1
        (scan.deliverRules kind observer index rules trigger t).1 ∧
      (scan.deliverRules kind observer' index rules trigger s).2 =
        (scan.deliverRules kind observer index rules trigger t).2 := by
  cases kind with
  | parameter method matcher position =>
    simp only [deliverRules]
    cases scan.argument? trigger position with
    | none => exact ⟨h.refl, rfl⟩
    | some argument =>
      obtain ⟨store, hstore⟩ := Arena.exists_store? hobserver.requester_lt
      have hroot := h.stores.live.hookRoot_lt h.stores.linked' hstore
      have hroot' : s.stores.hookRoot observer'.requester =
          f (t.stores.hookRoot observer.requester) := by
        rw [← hobserver.requester.eq]
        exact h.stores.embeds.hookRoot_eq h.stores.linked h.stores.linked' hstore
      have horigin : Arena.OriginStands f t.stores.size
          (some { trigger := trigger.node, hookRoot := f (t.stores.hookRoot observer.requester) })
          (some { trigger := trigger.node, hookRoot := t.stores.hookRoot observer.requester }) := by
        refine ⟨fun origin heq => ?_, rfl⟩
        cases heq
        exact hroot
      simp only [hroot', hobserver.chain_eq]
      exact ⟨followDepending_mirrored (evaluate_alike scan) h hobserver.requester index rules
        horigin (observer.chain + 1) argument, trivial⟩
  | _ => exact ⟨h.refl, rfl⟩

/-- **Serving an observer does the same as serving the one that stands for it**, and both get what
they waited for or neither does. -/
theorem deliver_mirrored (h : scan.Mirrors f g s t) {observer' observer : Observer}
    (hobserver : ObserverStands f t.stores.size observer' observer) (kind : HookKind)
    (trigger : Site) :
    scan.Mirrored f g s t (scan.deliver kind observer' trigger s).1
        (scan.deliver kind observer trigger t).1 ∧
      (scan.deliver kind observer' trigger s).2 = (scan.deliver kind observer trigger t).2 := by
  rw [deliver, deliver, hobserver.payload_eq]
  cases observer.payload with
  | value index id factory moveUnder => exact deliverValue_mirrored h hobserver ..
  | follow index rules => exact deliverRules_mirrored h hobserver ..

end Scan
end CryptoUsage
