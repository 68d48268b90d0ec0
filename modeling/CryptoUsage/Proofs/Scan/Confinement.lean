import CryptoUsage.Proofs.Arena.Remit
import CryptoUsage.Proofs.Hooks.Places
import CryptoUsage.Proofs.Scan.Acts

/-!
# Evaluations keep to a remit

Evaluating a rule for a store works on that store and on those it makes, and adds siblings under
the store's parent; serving an observer works on its requester in the way that it asked for.
Nothing else is written to (`evaluate_confines`, `deliver_confines`), and whoever is registered on
the way asks for nothing that could not have been done at once (`Remit.MayServe`).

The theorems go up the definitions of the evaluation, one for each, and hold for every remit that
covers what the function is called for.

## How it goes

A remit has a mark; the stores before it are the old ones, and the remit says in which of them
values may be filed, under which index, and below which of them new stores may be made.  That a
change of the arena keeps to one is `Remit.Spares`, proved beside the operations on arenas;
`Remit.Confines` adds the observers.

* Values and waiting.  Filing needs leave for the index, and to move a value, leave to make a
  store below (`storeReading_confines`).  An observer may be registered if serving it later would
  keep to the remit (`confines_register`).
* Following.  A new store is behind the mark, so its evaluation owns it (`Owns`).  `KeepsRemits`
  stands for the evaluation of what is followed, with any remit that owns its store.
* A rule at a site.  If the store has a site already, a sibling gets the new one, for which the
  parent has to be open.  `pursue` names what is done after that, since it stays with one store
  (`pursue_confines`); the later files take it up there.

`evaluateWithin_confines` is the induction on the number of rules followed in a row.
-/

set_option autoImplicit false

namespace CryptoUsage

namespace Remit

variable (remit : Remit)

/-- What was asked for on behalf of a store may be done. -/
def MayServe (requester : StoreId) : HookPayload → Prop
  | .value index _ _ moveUnder =>
    remit.MayFile requester index ∧ (moveUnder ≠ none → remit.MayAdopt requester)
  | .follow .. => remit.MayAdopt requester

/-- A state became another one within the remit: nobody who waits left, and whoever is new may be
served. -/
structure Confines (s s' : ScanState) : Prop where
  spares : remit.Spares s.stores s'.stores
  keeps : ∀ {place kind number observer}, s.hooks.WaitsAt place kind number observer →
    s'.hooks.WaitsAt place kind number observer
  enlists : ∀ {place kind number observer}, s'.hooks.WaitsAt place kind number observer →
    s.hooks.WaitsAt place kind number observer ∨
      remit.MayServe observer.requester observer.payload

variable {remit} {s s' s'' : ScanState}

/-- Only stores changed. -/
theorem Spares.confines (h : remit.Spares s.stores s'.stores) (hhooks : s'.hooks = s.hooks) :
    remit.Confines s s' :=
  ⟨h, fun hwaits => hhooks ▸ hwaits, fun hwaits => .inl (hhooks ▸ hwaits)⟩

theorem Confines.refl (s : ScanState) : remit.Confines s s := (Spares.refl s.stores).confines rfl

theorem confines_start (s : ScanState) : remit.Confines s s.start :=
  Spares.confines (.refl s.stores) rfl

theorem Confines.trans (h : remit.Confines s s') (h' : remit.Confines s' s'') :
    remit.Confines s s'' where
  spares := h.spares.trans h'.spares
  keeps hwaits := h'.keeps (h.keeps hwaits)
  enlists hwaits := (h'.enlists hwaits).elim h.enlists .inr

theorem Confines.foldl {α : Type} {f : ScanState → α → ScanState} {l : List α}
    (h : ∀ s', remit.Confines s s' → ∀ a ∈ l, remit.Confines s' (f s' a)) :
    remit.Confines s (l.foldl f s) := by
  induction l generalizing s with
  | nil => exact .refl s
  | cons a l ih =>
    have hfirst := h s (.refl s) a List.mem_cons_self
    refine hfirst.trans (ih fun s' hconfines b hb => ?_)
    exact h s' (hfirst.trans hconfines) b (List.mem_cons_of_mem a hb)

theorem confines_register {kind : HookKind} {observer : Observer}
    (may : remit.MayServe observer.requester observer.payload) :
    remit.Confines s { s with hooks := (s.hooks.register kind observer).1 } := by
  rcases HookRepository.register_waitsAt s.hooks kind observer with
    heq | ⟨-, place, kind', hiff⟩
  · rw [heq]
    exact .refl s
  · refine ⟨.refl s.stores, fun {p k n o} hwaits => (hiff p k n o).mpr (.inl hwaits),
      fun {p k n o} hwaits => ?_⟩
    rcases (hiff p k n o).mp hwaits with hold | ⟨-, -, -, rfl⟩
    · exact .inl hold
    · exact .inr may

end Remit

namespace Scan

variable {scan : Scan} {remit : Remit} {s s' : ScanState}

/-! ## Values -/

theorem storeReading_confines {id : StoreId} {index : Int} {moveUnder : Option Int}
    (hfits : remit.Fits s.stores) (may : remit.MayFile id index)
    (moves : moveUnder ≠ none → remit.MayAdopt id) (factory : ValueFactory) (reading : Reading) :
    remit.Confines s (scan.storeReading id index moveUnder factory s reading) := by
  rcases stores_storeReading_cases s id index moveUnder factory reading with heq | ⟨value, heq⟩ <;>
    rw [heq]
  · exact .refl s
  · have hspares := Remit.spares_receiveValue may moves hfits.mark_le value
    simp only
    split <;> exact hspares.confines rfl

theorem storeReadings_confines {id : StoreId} {index : Int} {moveUnder : Option Int}
    (hfits : remit.Fits s.stores) (may : remit.MayFile id index)
    (moves : moveUnder ≠ none → remit.MayAdopt id) (factory : ValueFactory)
    (readings : List Reading) :
    remit.Confines s (scan.storeReadings id index moveUnder factory s readings) :=
  .foldl fun _ hconfines _ _ =>
    storeReading_confines (hfits.spares hconfines.spares) may moves factory _

/-! ## Waiting -/

theorem waitFor_confines {observer : Observer}
    (may : remit.MayServe observer.requester observer.payload) (plan : HookPlan) :
    remit.Confines s (scan.waitFor observer s plan) := by
  rw [waitFor]
  split
  · exact Remit.confines_register may
  · exact .refl s

theorem detectValue_confines {id : StoreId} {index : Int} {moveUnder : Option Int}
    (hfits : remit.Fits s.stores) (may : remit.MayFile id index)
    (moves : moveUnder ≠ none → remit.MayAdopt id) (factoryId : FactoryId)
    (factory : ValueFactory) (argument : NodeId) :
    remit.Confines s (scan.detectValue id index moveUnder factoryId factory s argument) := by
  rw [detectValue]
  split
  · refine .foldl fun _ _ plan _ => waitFor_confines ?_ plan
    exact ⟨may, moves⟩
  · exact storeReadings_confines hfits may moves factory _

/-! ## Following rules -/

/-- Evaluating a rule keeps to every remit that owns the store it is evaluated for. -/
def KeepsRemits (evaluate : Evaluator) : Prop :=
  ∀ ⦃remit : Remit⦄ ⦃s : ScanState⦄ ⦃id trace site⦄, remit.Fits s.stores →
    remit.Owns s.stores id → remit.Confines s (evaluate s id trace site)

theorem evaluateAt_confines {evaluate : Evaluator} (he : KeepsRemits evaluate) (trace : Trace)
    (n : NodeId) {id : StoreId} (hfits : remit.Fits s.stores) (howns : remit.Owns s.stores id) :
    remit.Confines s (scan.evaluateAt evaluate trace n s id) := by
  rw [evaluateAt]
  split
  · exact (Remit.confines_start s).trans (he hfits howns)
  · exact Remit.confines_start s

theorem evaluateIn_confines {evaluate : Evaluator} (he : KeepsRemits evaluate) (trace : Trace)
    (scope : NodeId) {id : StoreId} (hfits : remit.Fits s.stores)
    (howns : remit.Owns s.stores id) :
    remit.Confines s (scan.evaluateIn evaluate trace scope s id) := by
  refine (Remit.confines_start s).trans (.foldl fun s' hconfines site _ => ?_)
  exact he (hfits.spares hconfines.spares) (howns.spares hconfines.spares)

theorem follow_confines {run : ScanState → StoreId → ScanState} {parent : StoreId}
    (hrun : ∀ {s id}, remit.Fits s.stores → remit.Owns s.stores id → remit.Confines s (run s id))
    (hfits : remit.Fits s.stores) (hopen : remit.IsOpen s.stores parent) (index : Int)
    (hook : Option HookOrigin) (rule : RuleId) :
    remit.Confines s (follow run parent index hook s rule) := by
  obtain ⟨above, habove⟩ := hopen.store_eq
  have hmade := Remit.spares_createChild habove hopen.mayAdopt index rule hook
  have hchild : remit.Confines s
      (s.withStores (s.stores.createChild parent index rule hook).1).plan := hmade.confines rfl
  refine hchild.trans (hrun (hfits.spares hmade) ?_)
  refine ⟨hfits.mark_le, _, Arena.store?_createChild_new habove .., fun hpar => ?_⟩
  obtain ⟨rfl, -⟩ := Prod.mk.inj (Option.some.inj hpar)
  exact hopen.mayAdopt

theorem follow_foldl_confines {run : ScanState → StoreId → ScanState} {parent : StoreId}
    (hrun : ∀ {s id}, remit.Fits s.stores → remit.Owns s.stores id → remit.Confines s (run s id))
    (hfits : remit.Fits s.stores) (hopen : remit.IsOpen s.stores parent) (index : Int)
    (hook : Option HookOrigin) (rules : List RuleId) :
    remit.Confines s (rules.foldl (follow run parent index hook) s) :=
  .foldl fun _ hconfines rule _ => follow_confines hrun (hfits.spares hconfines.spares)
    (hopen.spares hconfines.spares) index hook rule

theorem followNext_confines {evaluate : Evaluator} (he : KeepsRemits evaluate) {id : StoreId}
    (hfits : remit.Fits s.stores) (hopen : remit.IsOpen s.stores id) (rule : Rule) (site : Site) :
    remit.Confines s (scan.followNext evaluate id rule site s) := by
  rw [followNext]
  split
  · exact .refl s
  · exact follow_foldl_confines (evaluateIn_confines he _ _) hfits hopen ..

theorem followDepending_confines {evaluate : Evaluator} (he : KeepsRemits evaluate)
    {requester : StoreId} (hfits : remit.Fits s.stores) (hopen : remit.IsOpen s.stores requester)
    (index : Int) (rules : List RuleId) (origin : Option HookOrigin) (chain : Nat)
    (argument : NodeId) :
    remit.Confines s
      (scan.followDepending evaluate requester index rules origin chain s argument) := by
  simp only [followDepending]
  split
  · exact follow_foldl_confines (evaluateAt_confines he _ _) hfits hopen ..
  · split
    · split
      · split
        · refine waitFor_confines ?_ _
          exact hopen.mayAdopt
        · exact .refl s
      · exact .refl s
    · exact follow_foldl_confines (evaluateIn_confines he _ _) hfits hopen ..
  · exact .refl s

/-! ## A rule at a site -/

/-- Reading an argument files values under its own position only. -/
theorem readArgument_confines {evaluate : Evaluator} (he : KeepsRemits evaluate) {id : StoreId}
    (hfits : remit.Fits s.stores) (hopen : remit.IsOpen s.stores id) (ruleId : RuleId)
    {entry : (Parameter × NodeId) × Nat} (may : remit.MayFile id entry.2) :
    remit.Confines s (scan.readArgument evaluate id ruleId s entry) := by
  obtain ⟨⟨parameter, argument⟩, position⟩ := entry
  simp only [readArgument]
  split
  · exact .refl s
  · exact detectValue_confines hfits may (fun _ => hopen.mayAdopt) _ _ argument
  · exact followDepending_confines he hfits hopen ..

theorem readArguments_confines {evaluate : Evaluator} (he : KeepsRemits evaluate) {id : StoreId}
    (hfits : remit.Fits s.stores) (hopen : remit.IsOpen s.stores id)
    (may : ∀ index, remit.MayFile id index) (ruleId : RuleId) (rule : Rule) (site : Site) :
    remit.Confines s (scan.readArguments evaluate id ruleId rule site s) :=
  .foldl fun _ hconfines entry _ => readArgument_confines he (hfits.spares hconfines.spares)
    (hopen.spares hconfines.spares) ruleId (may entry.2)

variable (scan) in
/-- The state after what follows once a site was given to a store. -/
def pursue (evaluate : Evaluator) (id : StoreId) (ruleId : RuleId) (rule : Rule) (site : Site)
    (s : ScanState) : ScanState :=
  let s := scan.followNext evaluate id rule site s
  if rule.isMethodOnly then s else scan.readArguments evaluate id ruleId rule site s

theorem takeSite_eq_pursue (evaluate : Evaluator) (s : ScanState) (id : StoreId) (ruleId : RuleId)
    (rule : Rule) (site : Site) :
    scan.takeSite evaluate s id ruleId rule site =
      scan.pursue evaluate (scan.grant s id rule site).2 ruleId rule site
        (scan.grant s id rule site).1 := rfl

/-- What follows once a site was given to a store stays with that store and with new ones. -/
theorem pursue_confines {evaluate : Evaluator} (he : KeepsRemits evaluate) {id : StoreId}
    (hfits : remit.Fits s.stores) (hopen : remit.IsOpen s.stores id)
    (may : ∀ index, remit.MayFile id index) (ruleId : RuleId) (rule : Rule) (site : Site) :
    remit.Confines s (scan.pursue evaluate id ruleId rule site s) := by
  have hnext : remit.Confines s (scan.followNext evaluate id rule site s) :=
    followNext_confines he hfits hopen rule site
  simp only [pursue]
  split
  · exact hnext
  · exact hnext.trans (readArguments_confines he (hfits.spares hnext.spares)
      (hopen.spares hnext.spares) may ruleId rule site)

theorem hooks_grant (s : ScanState) (id : StoreId) (rule : Rule) (site : Site) :
    (scan.grant s id rule site).1.hooks = s.hooks := by
  simp only [grant, ScanState.claim]
  split <;> rfl

theorem grant_snd (s : ScanState) (id : StoreId) (rule : Rule) (site : Site) :
    (scan.grant s id rule site).2 = (s.stores.claim id site).2 := by
  simp only [grant, ScanState.claim]
  split <;> rfl

theorem grant_confines {id : StoreId} (hfits : remit.Fits s.stores)
    (howns : remit.Owns s.stores id) (rule : Rule) (site : Site) :
    remit.Confines s (scan.grant s id rule site).1 ∧
      remit.Owns (scan.grant s id rule site).1.stores (scan.grant s id rule site).2 := by
  obtain ⟨hclaim, htarget⟩ := howns.claim hfits site
  have htake : remit.Spares (s.stores.claim id site).1 (scan.grant s id rule site).1.stores := by
    rw [stores_grant]
    exact Remit.spares_take htarget.mark_le fun _ => ⟨_, _, rfl⟩
  exact ⟨(hclaim.trans htake).confines (hooks_grant ..), grant_snd s id rule site ▸
    htarget.spares htake⟩

theorem evaluateBy_confines {evaluate : Evaluator} (he : KeepsRemits evaluate) :
    KeepsRemits (scan.evaluateBy evaluate) := by
  intro remit s id trace site hfits howns
  rw [evaluateBy]
  split
  · exact .refl s
  · split
    · exact .refl s
    · next rule _ =>
      split
      · obtain ⟨hgrant, htarget⟩ := grant_confines hfits howns rule site
        rw [takeSite_eq_pursue]
        exact hgrant.trans (pursue_confines he (hfits.spares hgrant.spares) htarget.isOpen
          htarget.mayFile _ rule site)
      · exact .refl s

theorem evaluateWithin_confines (scan : Scan) (steps : Nat) :
    KeepsRemits (scan.evaluateWithin steps) := by
  induction steps with
  | zero => exact fun _ s _ _ _ _ _ => .refl s
  | succ steps ih => exact evaluateBy_confines ih

/-- **Evaluating a rule keeps to the remit.** -/
theorem evaluate_confines (scan : Scan) : KeepsRemits scan.evaluate :=
  evaluateWithin_confines scan scan.catalog.size

/-! ## Serving observers -/

/-- **Serving an observer keeps to every remit in which it may be served.** -/
theorem deliver_confines {observer : Observer} (hfits : remit.Fits s.stores)
    (hlive : ∃ store, s.stores.store? observer.requester = some store)
    (may : remit.MayServe observer.requester observer.payload) (kind : HookKind) (trigger : Site) :
    remit.Confines s (scan.deliver kind observer trigger s).1 := by
  rw [deliver]
  split
  · next index factoryId factory moveUnder hpayload =>
    have hmay := may
    rw [hpayload] at hmay
    rw [deliverValue]
    split
    · exact .refl s
    · exact .refl s
    · rw [passOn]
      simp only
      split
      · exact .refl s
      · refine .foldl fun _ _ plan _ => waitFor_confines ?_ plan
        exact may
    · exact storeReadings_confines hfits hmay.1 hmay.2 factory _
  · next index rules hpayload =>
    rw [hpayload] at may
    simp only [deliverRules]
    split
    · split
      · exact .refl s
      · exact followDepending_confines (evaluate_confines scan) hfits ⟨may, hlive⟩ ..
    · exact .refl s

end Scan
end CryptoUsage
