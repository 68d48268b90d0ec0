import CryptoUsage.Proofs.Scan.Evaluating

/-!
# The acts of an evaluation

Evaluating a rule and serving an observer both come down to four acts: a rule is followed, a site
is given to a store, a reading is filed, and something is waited for.  `Act` lists them as they
are done.  `Step` breaks the same work up further and asks for the reason of each part; here
nothing is asked for, and what is kept in view instead is where a site can go and what is told of
the progress.

* A site is given to a store at a mark or behind it, where the mark is any place up to which all
  places were taken before (`Acts.keepsSites`): no rule is evaluated again for an old store.
* Whenever a store is made, its evaluation is planned and started at once (`Acts.accounts`).

## How it goes

* Arenas.  Beside each operation stands what it does to the sites before a mark (`KeepsSites`) and
  to the number of stores: a value or a site goes where it was sent, or to one new store.
* What acts do.  Progress is told exactly if there was a new store (`accounts_of_size`), so one
  act makes at most one store and tells one pair.  Runs of acts do both by induction.
* Evaluations are acts.  The theorems go up the definitions once more, with no condition but that
  the mark is not behind the end of the arena; a store that is made for a rule is behind the mark,
  so its own evaluation may give it a site.
-/

set_option autoImplicit false

namespace CryptoUsage

namespace Arena

variable {a b c : Arena} {mark : Nat}

/-- Stores are only added, and before the mark every store keeps the site it has, or has none. -/
structure KeepsSites (mark : Nat) (a b : Arena) : Prop where
  size_le : a.size ≤ b.size
  sites : ∀ id, id < mark → (b.store? id).map (·.site) = (a.store? id).map (·.site)

theorem KeepsSites.refl (mark : Nat) (a : Arena) : KeepsSites mark a a :=
  ⟨Nat.le_refl _, fun _ _ => rfl⟩

theorem KeepsSites.trans (hab : KeepsSites mark a b) (hbc : KeepsSites mark b c) :
    KeepsSites mark a c :=
  ⟨Nat.le_trans hab.size_le hbc.size_le, fun id hid => (hbc.sites id hid).trans (hab.sites id hid)⟩

theorem keepsSites_push (make : StoreId → Store) (h : mark ≤ a.size) :
    KeepsSites mark a (a.push make).1 := by
  refine ⟨by rw [size_push]; exact Nat.le_succ _, fun id hid => ?_⟩
  rw [store?_push, if_neg (Nat.ne_of_lt (Nat.lt_of_lt_of_le hid h))]

theorem keepsSites_modify {id : StoreId} {change : Store → Store}
    (h : mark ≤ id ∨ ∀ store, (change store).site = store.site) :
    KeepsSites mark a (a.modify id change) := by
  refine ⟨Nat.le_of_eq (size_modify ..).symm, fun j hj => ?_⟩
  rw [store?_modify]
  split
  · next heq =>
    have hsame := h.resolve_left (Nat.not_le_of_lt (heq ▸ hj))
    rw [Option.map_map]
    exact congrArg (Option.map · (a.store? j)) (funext hsame)
  · rfl

theorem keepsSites_createChild (parent : StoreId) (index : Int) (rule : RuleId)
    (hook : Option HookOrigin) (h : mark ≤ a.size) :
    KeepsSites mark a (a.createChild parent index rule hook).1 := by
  rw [createChild]
  exact (keepsSites_push _ h).trans (keepsSites_modify (.inr fun _ => rfl))

theorem keepsSites_pushValue (id : StoreId) (index : Int) (value : DetectedValue) :
    KeepsSites mark a (a.pushValue id index value) :=
  keepsSites_modify (.inr fun _ => rfl)

theorem keepsSites_receiveValue (id : StoreId) (index : Int) (moveUnder : Option Int)
    (value : DetectedValue) (h : mark ≤ a.size) :
    KeepsSites mark a (a.receiveValue id index moveUnder value).1 := by
  cases moveUnder with
  | none => exact keepsSites_pushValue ..
  | some target =>
    rw [receiveValue]
    split
    · exact .refl mark a
    · exact (keepsSites_createChild _ _ _ _ h).trans (keepsSites_pushValue ..)

/-- A value stays where it was sent, or it is moved to one new store. -/
theorem size_receiveValue (a : Arena) (id : StoreId) (index : Int) (moveUnder : Option Int)
    (value : DetectedValue) :
    ((a.receiveValue id index moveUnder value).2 = id ∧
      (a.receiveValue id index moveUnder value).1.size = a.size) ∨
    ((a.receiveValue id index moveUnder value).2 ≠ id ∧
      (a.receiveValue id index moveUnder value).1.size = a.size + 1) := by
  cases moveUnder with
  | none => exact .inl ⟨rfl, size_pushValue ..⟩
  | some target =>
    rw [receiveValue]
    split
    · exact .inl ⟨rfl, rfl⟩
    · next hid =>
      refine .inr ⟨Nat.ne_of_gt (lt_size_of_store? hid), ?_⟩
      rw [size_pushValue, size_createChild]

theorem createSibling_snd (a : Arena) (store : Store) : (a.createSibling store).2 = a.size := by
  rw [createSibling]
  split <;> rfl

theorem size_createSibling (a : Arena) (store : Store) :
    (a.createSibling store).1.size = a.size + 1 := by
  rw [createSibling]
  split
  · exact size_createChild ..
  · exact size_createRoot _

theorem keepsSites_createSibling (store : Store) (h : mark ≤ a.size) :
    KeepsSites mark a (a.createSibling store).1 := by
  rw [createSibling]
  split
  · exact keepsSites_createChild _ _ _ _ h
  · exact keepsSites_push _ h

/-- A site that is given goes to the store itself or to a new one. -/
theorem keepsSites_claim {id : StoreId} (site : Site) (h : mark ≤ a.size) (hid : mark ≤ id) :
    KeepsSites mark a (a.claim id site).1 ∧ mark ≤ (a.claim id site).2 := by
  rw [claim]
  split
  · exact ⟨.refl mark a, hid⟩
  · next store _ =>
    by_cases hfree : store.site.all (· == site) = true
    · simp only [if_pos hfree]
      exact ⟨keepsSites_modify (.inl hid), hid⟩
    · simp only [if_neg hfree, createSibling_snd]
      exact ⟨(keepsSites_createSibling store h).trans (keepsSites_modify (.inl h)), h⟩

/-- A site goes where it was sent, or to one new store. -/
theorem size_claim (a : Arena) (id : StoreId) (site : Site) :
    ((a.claim id site).2 = id ∧ (a.claim id site).1.size = a.size) ∨
    ((a.claim id site).2 ≠ id ∧ (a.claim id site).1.size = a.size + 1) := by
  rw [claim]
  split
  · exact .inl ⟨rfl, rfl⟩
  · next store hid =>
    by_cases hfree : store.site.all (· == site) = true
    · rw [if_pos hfree]
      exact .inl ⟨rfl, size_modify ..⟩
    · rw [if_neg hfree]
      refine .inr ⟨?_, (size_modify ..).trans (size_createSibling a store)⟩
      rw [createSibling_snd]
      exact Nat.ne_of_gt (lt_size_of_store? hid)

end Arena

namespace ScanState

variable {s s' s'' : ScanState}

/-- Between two states some stores were made, and of each it was told that its evaluation was
planned and then that it started, before anything was told of the next. -/
def Accounts (s s' : ScanState) : Prop :=
  ∃ count, s'.created = s.created + count ∧
    s'.progress = (List.replicate count [Progress.started, .planned]).flatten ++ s.progress

theorem Accounts.refl (s : ScanState) : Accounts s s := ⟨0, rfl, rfl⟩

theorem Accounts.trans (h : Accounts s s') (h' : Accounts s' s'') : Accounts s s'' := by
  obtain ⟨m, hcreated, hprogress⟩ := h
  obtain ⟨n, hcreated', hprogress'⟩ := h'
  refine ⟨n + m, by rw [hcreated', hcreated, Nat.add_assoc, Nat.add_comm m n], ?_⟩
  rw [hprogress', hprogress, ← List.append_assoc, ← List.flatten_append,
    List.replicate_append_replicate]

/-- One new store, planned and started. -/
theorem accounts_made {stores : Arena} (h : stores.size = s.stores.size + 1) :
    Accounts s (s.withStores stores).plan.start := by
  refine ⟨1, ?_, rfl⟩
  show s.created + (stores.size - s.stores.size) = s.created + 1
  rw [h, Nat.add_sub_cancel_left]

/-- No new store. -/
theorem accounts_kept {stores : Arena} (h : stores.size = s.stores.size) :
    Accounts s (s.withStores stores) := by
  refine ⟨0, ?_, rfl⟩
  show s.created + (stores.size - s.stores.size) = s.created + 0
  rw [h, Nat.sub_self]

/-- A new store if something went to another place than it was sent. -/
theorem accounts_of_size {stores : Arena} {target id : StoreId}
    (h : (target = id ∧ stores.size = s.stores.size) ∨
      (target ≠ id ∧ stores.size = s.stores.size + 1)) :
    Accounts s
      (if target = id then s.withStores stores else (s.withStores stores).plan.start) := by
  rcases h with ⟨heq, hsize⟩ | ⟨hne, hsize⟩
  · rw [if_pos heq]
    exact accounts_kept hsize
  · rw [if_neg hne]
    exact accounts_made hsize

end ScanState

namespace Scan

variable (scan : Scan)

/-- One thing that evaluating rules and serving observers does.  A site is given only to a store at
a mark or behind it. -/
inductive Act (mark : Nat) : ScanState → ScanState → Prop
  | follow (s : ScanState) (parent : StoreId) (index : Int) (rule : RuleId)
      (hook : Option HookOrigin) :
      Act mark s (s.withStores (s.stores.createChild parent index rule hook).1).plan.start
  | grant (s : ScanState) {id : StoreId} (rule : Rule) (site : Site) (behind : mark ≤ id) :
      Act mark s (scan.grant s id rule site).1
  | file (s : ScanState) (id : StoreId) (index : Int) (moveUnder : Option Int)
      (factory : ValueFactory) (reading : Reading) :
      Act mark s (scan.storeReading id index moveUnder factory s reading)
  | wait (s : ScanState) (observer : Observer) (plan : HookPlan) :
      Act mark s (scan.waitFor observer s plan)

/-- Any number of acts. -/
abbrev Acts (mark : Nat) : ScanState → ScanState → Prop := Relation.ReflTransGen (scan.Act mark)

variable {scan} {mark : Nat} {s s' : ScanState}

/-! ## What acts do -/

theorem stores_grant (s : ScanState) (id : StoreId) (rule : Rule) (site : Site) :
    (scan.grant s id rule site).1.stores = (s.stores.claim id site).1.receiveMethod
      (s.stores.claim id site).2 site (scan.actionOf? rule site) := by
  simp only [grant, ScanState.claim]
  split <;> rfl

theorem stores_storeReading_cases (s : ScanState) (id : StoreId) (index : Int)
    (moveUnder : Option Int) (factory : ValueFactory) (reading : Reading) :
    scan.storeReading id index moveUnder factory s reading = s ∨ ∃ value,
      scan.storeReading id index moveUnder factory s reading =
        let (stores, target) := s.stores.receiveValue id index moveUnder value
        if target = id then s.withStores stores else (s.withStores stores).plan.start := by
  rw [storeReading]
  split
  · exact .inl rfl
  · next value _ => exact .inr ⟨value, rfl⟩

theorem stores_waitFor (s : ScanState) (observer : Observer) (plan : HookPlan) :
    (scan.waitFor observer s plan).stores = s.stores := by
  rw [waitFor]
  split <;> rfl

theorem Act.keepsSites (h : scan.Act mark s s') (hmark : mark ≤ s.stores.size) :
    s.stores.KeepsSites mark s'.stores := by
  cases h with
  | follow => exact Arena.keepsSites_createChild _ _ _ _ hmark
  | grant rule site behind =>
    obtain ⟨hclaim, htarget⟩ := Arena.keepsSites_claim site hmark behind
    rw [stores_grant]
    exact hclaim.trans (Arena.keepsSites_modify (.inl htarget))
  | file id index moveUnder factory reading =>
    rcases stores_storeReading_cases s id index moveUnder factory reading with heq | ⟨value, heq⟩
    · rw [heq]
      exact .refl mark s.stores
    · have hreceive := Arena.keepsSites_receiveValue id index moveUnder value hmark
      rw [heq]
      simp only
      split <;> exact hreceive
  | wait observer plan =>
    rw [stores_waitFor]
    exact .refl mark s.stores

theorem Act.accounts (h : scan.Act mark s s') : s.Accounts s' := by
  cases h with
  | follow => exact ScanState.accounts_made (Arena.size_createChild ..)
  | @grant id rule site =>
    refine (ScanState.accounts_of_size (Arena.size_claim s.stores id site)).trans ?_
    simp only [Scan.grant, ScanState.claim]
    split <;> exact ScanState.accounts_kept (Arena.size_modify ..)
  | file id index moveUnder factory reading =>
    rcases stores_storeReading_cases s id index moveUnder factory reading with heq | ⟨value, heq⟩
    · rw [heq]
      exact .refl s
    · rw [heq]
      exact ScanState.accounts_of_size (Arena.size_receiveValue ..)
  | wait observer plan =>
    rw [waitFor]
    split <;> exact .refl s

/-- Acts give no site to a store that stood before the mark. -/
theorem Acts.keepsSites (h : scan.Acts mark s s') (hmark : mark ≤ s.stores.size) :
    s.stores.KeepsSites mark s'.stores := by
  induction h with
  | refl => exact .refl mark s.stores
  | tail _ hact ih => exact ih.trans (hact.keepsSites (Nat.le_trans hmark ih.size_le))

/-- Acts account for the stores they make. -/
theorem Acts.accounts (h : scan.Acts mark s s') : s.Accounts s' := by
  induction h with
  | refl => exact .refl s
  | tail _ hact ih => exact ih.trans hact.accounts

/-! ## Evaluations are acts -/

theorem Acts.foldl {α : Type} {f : ScanState → α → ScanState} {l : List α}
    (hmark : mark ≤ s.stores.size)
    (h : ∀ s', mark ≤ s'.stores.size → ∀ a ∈ l, scan.Acts mark s' (f s' a)) :
    scan.Acts mark s (l.foldl f s) := by
  induction l generalizing s with
  | nil => exact .refl
  | cons a l ih =>
    have hfirst := h s hmark a List.mem_cons_self
    have hmark' := Nat.le_trans hmark (Acts.keepsSites hfirst hmark).size_le
    exact hfirst.trans (ih hmark' fun s' hs' b hb => h s' hs' b (List.mem_cons_of_mem a hb))

theorem storeReadings_acts (id : StoreId) (index : Int) (moveUnder : Option Int)
    (factory : ValueFactory) (hmark : mark ≤ s.stores.size) (readings : List Reading) :
    scan.Acts mark s (scan.storeReadings id index moveUnder factory s readings) :=
  Acts.foldl hmark fun _ _ _ _ => .single (.file ..)

theorem waitFor_foldl_acts (observer : Observer) (plans : List HookPlan)
    (hmark : mark ≤ s.stores.size) :
    scan.Acts mark s (plans.foldl (scan.waitFor observer) s) :=
  Acts.foldl hmark fun _ _ _ _ => .single (.wait ..)

theorem detectValue_acts (id : StoreId) (index : Int) (moveUnder : Option Int)
    (factoryId : FactoryId) (factory : ValueFactory) (hmark : mark ≤ s.stores.size)
    (argument : NodeId) :
    scan.Acts mark s (scan.detectValue id index moveUnder factoryId factory s argument) := by
  rw [detectValue]
  split
  · exact waitFor_foldl_acts _ _ hmark
  · exact storeReadings_acts _ _ _ _ hmark _

/-- Evaluating a rule for a store behind the mark is a matter of acts. -/
def Performs (scan : Scan) (evaluate : Evaluator) : Prop :=
  ∀ {mark s id trace site}, mark ≤ s.stores.size → mark ≤ id →
    scan.Acts mark s (evaluate s id trace site)

theorem evaluateAt_acts {evaluate : Evaluator} (he : scan.Performs evaluate) (trace : Trace)
    (n : NodeId) {id : StoreId} (hmark : mark ≤ s.stores.size) (hid : mark ≤ id) :
    scan.Acts mark s.start (scan.evaluateAt evaluate trace n s id) := by
  rw [evaluateAt]
  split
  · exact he hmark hid
  · exact .refl

theorem evaluateIn_acts {evaluate : Evaluator} (he : scan.Performs evaluate) (trace : Trace)
    (scope : NodeId) {id : StoreId} (hmark : mark ≤ s.stores.size) (hid : mark ≤ id) :
    scan.Acts mark s.start (scan.evaluateIn evaluate trace scope s id) :=
  Acts.foldl hmark fun _ hmark' _ _ => he hmark' hid

/-- Following rules, each in a new store. -/
theorem follow_foldl_acts {run : ScanState → StoreId → ScanState} (parent : StoreId) (index : Int)
    (hook : Option HookOrigin) (rules : List RuleId) (hmark : mark ≤ s.stores.size)
    (hrun : ∀ {s' id}, mark ≤ s'.stores.size → mark ≤ id → scan.Acts mark s'.start (run s' id)) :
    scan.Acts mark s (rules.foldl (follow run parent index hook) s) := by
  refine Acts.foldl hmark fun s' hmark' child _ => ?_
  have hact : scan.Act mark s' _ := .follow s' parent index child hook
  exact (Relation.ReflTransGen.single hact).trans
    (hrun (Nat.le_trans hmark' (hact.keepsSites hmark').size_le) hmark')

theorem followNext_acts {evaluate : Evaluator} (he : scan.Performs evaluate) (id : StoreId)
    (rule : Rule) (site : Site) (hmark : mark ≤ s.stores.size) :
    scan.Acts mark s (scan.followNext evaluate id rule site s) := by
  rw [followNext]
  split
  · exact .refl
  · exact follow_foldl_acts _ _ _ _ hmark fun hmark' hid => evaluateIn_acts he _ _ hmark' hid

theorem followDepending_acts {evaluate : Evaluator} (he : scan.Performs evaluate)
    (requester : StoreId) (index : Int) (rules : List RuleId) (origin : Option HookOrigin)
    (chain : Nat) (hmark : mark ≤ s.stores.size) (argument : NodeId) :
    scan.Acts mark s
      (scan.followDepending evaluate requester index rules origin chain s argument) := by
  simp only [followDepending]
  split
  · exact follow_foldl_acts _ _ _ _ hmark fun hmark' hid => evaluateAt_acts he _ _ hmark' hid
  · split
    · split
      · split
        · exact .single (.wait ..)
        · exact .refl
      · exact .refl
    · exact follow_foldl_acts _ _ _ _ hmark fun hmark' hid => evaluateIn_acts he _ _ hmark' hid
  · exact .refl

theorem readArguments_acts {evaluate : Evaluator} (he : scan.Performs evaluate) (id : StoreId)
    (ruleId : RuleId) (rule : Rule) (site : Site) (hmark : mark ≤ s.stores.size) :
    scan.Acts mark s (scan.readArguments evaluate id ruleId rule site s) := by
  refine Acts.foldl hmark fun s' hmark' entry _ => ?_
  simp only [readArgument]
  split
  · exact .refl
  · exact detectValue_acts _ _ _ _ _ hmark' _
  · exact followDepending_acts he _ _ _ _ _ hmark' _

theorem evaluateBy_acts {evaluate : Evaluator} (he : scan.Performs evaluate) :
    scan.Performs (scan.evaluateBy evaluate) := by
  intro mark s id trace site hmark hid
  simp only [evaluateBy, takeSite_eq]
  split
  · exact .refl
  · split
    · exact .refl
    · next store _ _ rule _ =>
      split
      · have hgrant : scan.Act mark s (scan.grant s id rule site).1 := .grant s rule site hid
        have hgranted := Nat.le_trans hmark (hgrant.keepsSites hmark).size_le
        have hnext : scan.Acts mark _ (scan.followNext evaluate (scan.grant s id rule site).2 rule
            site (scan.grant s id rule site).1) := followNext_acts he _ _ _ hgranted
        have hfollowed := Nat.le_trans hgranted (Acts.keepsSites hnext hgranted).size_le
        split
        · exact (Relation.ReflTransGen.single hgrant).trans hnext
        · exact ((Relation.ReflTransGen.single hgrant).trans hnext).trans
            (readArguments_acts he _ _ _ _ hfollowed)
      · exact .refl

theorem evaluateWithin_acts (scan : Scan) (steps : Nat) :
    scan.Performs (scan.evaluateWithin steps) := by
  induction steps with
  | zero => exact fun _ _ => .refl
  | succ steps ih => exact evaluateBy_acts ih

/-- **Evaluating a rule comes down to acts.** -/
theorem evaluate_acts (scan : Scan) : scan.Performs scan.evaluate :=
  evaluateWithin_acts scan scan.catalog.size

/-- **Serving an observer comes down to acts.** -/
theorem deliver_acts (kind : HookKind) (observer : Observer) (trigger : Site)
    (hmark : mark ≤ s.stores.size) :
    scan.Acts mark s (scan.deliver kind observer trigger s).1 := by
  rw [deliver]
  split
  · rw [deliverValue]
    split
    · exact .refl
    · exact .refl
    · rw [passOn]
      simp only
      split
      · exact .refl
      · exact waitFor_foldl_acts _ _ hmark
    · exact storeReadings_acts _ _ _ _ hmark _
  · cases kind with
    | parameter method matcher position =>
      simp only [deliverRules]
      split
      · exact .refl
      · exact followDepending_acts (evaluate_acts scan) _ _ _ _ _ hmark _
    | _ => exact .refl

end Scan
end CryptoUsage
