import CryptoUsage.Proofs.Scan.Evaluating
import CryptoUsage.Proofs.Scan.Traversal

/-!
# Sound states

`Sound` is what holds of a scan between two events: there is a reason for everything in its state,
and exactly the roots that hold detections were emitted.

Each event is work for one root followed by a look at whether that root now holds detections.  So
the trees of other roots, and what is known of them, stay as they are (`Sound.settle`); and a root
for which nothing was detected and nothing waits is thrown away without leaving a trace
(`tryRoot_cases`).

## How it goes

* Emitting.  A look at a root does nothing or puts the root last among the emitted ones
  (`emitIfDetected_cases`), and changes neither stores nor hooks.  `Sound.settle` then treats all
  events alike: the work for a root leaves other trees as they were, and the look restores the
  agreement between detections and emission for this root.
* Events.  An event that is due names an observer, and what is known of it says whose root it
  waits for and that the rule may be followed where the hook fires
  (`Explained.requests_of_observer?`).  `handle_cases` lists what can happen: nothing, if the
  observer left before, or work for that root, after which it may leave.
* Root rules.  `plant` makes the new root and `attempt` evaluates its rule, so that trying a rule
  is one of two things (`tryRoot_cases`): the root is kept and looked at, or the arena is as
  before, and the hooks too, since a root nobody waits for has registered none.

The step theorems are gathered in `sound_kept`, and `sound_after` is the induction over the nodes.
-/

set_option autoImplicit false

namespace CryptoUsage
namespace Scan

variable {scan : Scan} {s s' : ScanState}

/-! ## Soundness -/

variable (scan) in
/-- There is a reason for everything in a state, and the roots with detections were emitted. -/
structure Sound (s : ScanState) : Prop where
  explained : scan.Explained s
  emitted : ∀ ⦃id⦄, id ∈ s.emitted → ∃ store, s.stores.store? id = some store ∧ store.parent = none
  nodup : s.emitted.Nodup
  detected : ∀ ⦃id store⦄, s.stores.store? id = some store → store.parent = none →
    (s.stores.Detects id ↔ id ∈ s.emitted)

theorem sound_empty : scan.Sound {} where
  explained :=
    { linked := Arena.linked_empty
      rooted := fun _ _ _ h => by simp [Arena.store?] at h
      stores := fun _ _ h => by simp [Arena.store?] at h
      offers := fun _ h => by simp [HookRepository.kinds] at h
      requests := fun _ _ _ h => by obtain ⟨hook, hmem, -⟩ := h; simp at hmem }
  emitted _ h := by simp at h
  nodup := List.nodup_nil
  detected _ _ h := by simp [Arena.store?] at h

/-- Explained is about the stores, the hooks and the position. -/
theorem Explained.congr (h : scan.Explained s) (hstores : s'.stores = s.stores)
    (hhooks : s'.hooks = s.hooks) (hposition : s.position ≤ s'.position) : scan.Explained s' where
  linked := hstores ▸ h.linked
  rooted := hstores ▸ h.rooted
  stores _ _ hid :=
    (h.stores (hstores ▸ hid)).grows (hstores ▸ Arena.Grows.refl s.stores)
  offers := hhooks ▸ h.offers
  requests _ _ _ hwaits :=
    (h.requests (hhooks ▸ hwaits)).grows (hstores ▸ Arena.Grows.refl s.stores) hposition

theorem Sound.congr (h : scan.Sound s) (hstores : s'.stores = s.stores)
    (hhooks : s'.hooks = s.hooks) (hposition : s.position ≤ s'.position)
    (hemitted : s'.emitted = s.emitted) : scan.Sound s' where
  explained := h.explained.congr hstores hhooks hposition
  emitted := hstores ▸ hemitted ▸ h.emitted
  nodup := hemitted ▸ h.nodup
  detected := hstores ▸ hemitted ▸ h.detected

/-! ## Emitting -/

/-- Everything that a look at a root can do: nothing, or put it last among the emitted ones. -/
theorem emitIfDetected_cases (scan : Scan) (s : ScanState) (root : StoreId) :
    (scan.emitIfDetected s root = s ∧ (s.stores.hasDetections root = true → root ∈ s.emitted)) ∨
    (s.stores.hasDetections root = true ∧ root ∉ s.emitted ∧
      scan.emitIfDetected s root = { s with
        emitted := s.emitted ++ [root]
        reported :=
          if s.reported.any (scan.findingOf s root).same then s.reported
          else s.reported ++ [scan.findingOf s root] }) := by
  rw [emitIfDetected]
  split
  · next hdetected =>
    rw [emit]
    split
    · next hmem => exact .inl ⟨rfl, fun _ => List.contains_iff_mem.mp hmem⟩
    · next hmem =>
      exact .inr ⟨hdetected, fun h => hmem (List.contains_iff_mem.mpr h), rfl⟩
  · next hnone => exact .inl ⟨rfl, fun h => absurd h hnone⟩

@[simp] theorem stores_emitIfDetected (scan : Scan) (s : ScanState) (root : StoreId) :
    (scan.emitIfDetected s root).stores = s.stores := by
  rcases emitIfDetected_cases scan s root with ⟨h, -⟩ | ⟨-, -, h⟩ <;> rw [h]

@[simp] theorem hooks_emitIfDetected (scan : Scan) (s : ScanState) (root : StoreId) :
    (scan.emitIfDetected s root).hooks = s.hooks := by
  rcases emitIfDetected_cases scan s root with ⟨h, -⟩ | ⟨-, -, h⟩ <;> rw [h]

@[simp] theorem position_emitIfDetected (scan : Scan) (s : ScanState) (root : StoreId) :
    (scan.emitIfDetected s root).position = s.position := by
  rcases emitIfDetected_cases scan s root with ⟨h, -⟩ | ⟨-, -, h⟩ <;> rw [h]

theorem mem_emitIfDetected {root id : StoreId} :
    id ∈ (scan.emitIfDetected s root).emitted ↔
      id ∈ s.emitted ∨ (id = root ∧ s.stores.hasDetections root = true) := by
  rcases emitIfDetected_cases scan s root with ⟨h, hmem⟩ | ⟨hdetected, -, h⟩ <;> rw [h]
  · constructor
    · exact .inl
    · rintro (hid | ⟨rfl, hdetected⟩)
      · exact hid
      · exact hmem hdetected
  · simp [hdetected]

/-- Work for a root followed by a look at it leaves a sound state: no other root's tree changed. -/
theorem Sound.settle (hs : scan.Sound s) {root : StoreId} {top : Store}
    (htop : s.stores.store? root = some top) (hpar : top.parent = none)
    (hworks : s.stores.Works root s'.stores) (hexplained : scan.Explained s')
    (hemitted : s'.emitted = s.emitted) : scan.Sound (scan.emitIfDetected s' root) := by
  obtain ⟨top', htop', hgtop⟩ := hworks.grows htop
  have hroot := (hexplained.linked.root htop' (hgtop.parent.trans hpar)).2
  refine ⟨hexplained.congr (by simp) (by simp) (by simp), fun id hid => ?_, ?_, fun id store => ?_⟩
  · rw [stores_emitIfDetected]
    rcases mem_emitIfDetected.mp hid with hid | ⟨rfl, -⟩
    · obtain ⟨store, hstore, hnone⟩ := hs.emitted (hemitted ▸ hid)
      obtain ⟨store', hstore', hg⟩ := hworks.grows hstore
      exact ⟨store', hstore', hg.parent.trans hnone⟩
    · exact ⟨top', htop', hgtop.parent.trans hpar⟩
  · have hnodup : s'.emitted.Nodup := hemitted ▸ hs.nodup
    rcases emitIfDetected_cases scan s' root with ⟨h, -⟩ | ⟨-, hnew, h⟩ <;> rw [h]
    · exact hnodup
    · refine List.nodup_append.mpr ⟨hnodup, by simp, fun id hid other hother => ?_⟩
      obtain rfl := List.mem_singleton.mp hother
      exact fun heq => hnew (heq ▸ hid)
  · rw [stores_emitIfDetected, mem_emitIfDetected, hemitted]
    intro hid hnone
    by_cases heq : id = root
    · subst heq
      rw [hexplained.linked.hasDetections_root_iff htop' hroot]
      constructor
      · exact fun hdetects => .inr ⟨rfl, hdetects⟩
      · rintro (hmem | ⟨-, hdetects⟩)
        · exact hworks.grows.detects ((hs.detected htop hpar).mpr hmem)
        · exact hdetects
    · -- the tree of another root is as it was
      have hother : store.root ≠ root := (hexplained.linked.root hid hnone).2 ▸ heq
      rw [hworks.detects_iff heq, hs.detected ((hworks.frame hother).mp hid) hnone]
      simp [heq]

/-! ## Events -/

/-- What is known of the observer of an event that is handled. -/
theorem Explained.requests_of_observer? (h : scan.Explained s) {event : HookEvent} {hook : Hook}
    {observer : Observer} (hhook : s.hooks.hook? event.hook = some hook)
    (hobserver : s.hooks.observer? event.hook event.observer = some observer)
    (hdue : scan.Due s event) :
    scan.Requests s hook.kind observer ∧ hook.kind.fires scan.unit event.trigger = true := by
  obtain ⟨kind, hkind, hfires⟩ := hdue.fires
  rw [HookRepository.kinds, List.getElem?_map, ← HookRepository.hook?, hhook] at hkind
  cases hkind
  exact ⟨h.requests (HookRepository.waits_of_lookup hhook hobserver), hfires⟩

/-- The root on whose behalf an observer waits is live. -/
theorem Explained.exists_root (h : scan.Explained s) {kind : HookKind} {observer : Observer}
    (hrequests : scan.Requests s kind observer) :
    ∃ top, s.stores.store? observer.root = some top ∧ top.parent = none ∧ top.level = 0 := by
  obtain ⟨-, -, -, _, _, _, _, _, ⟨-, store, hid, hroot, -⟩, -⟩ := hrequests
  obtain ⟨-, top, htop, hpar, hlevel, -⟩ := h.linked.exists_root hid
  exact ⟨top, hroot ▸ htop, hpar, hlevel⟩

/-- Removing an observer leaves a reason for everything. -/
theorem Explained.removeObserver (h : scan.Explained s) (place : Nat) (number : ObserverId) :
    scan.Explained { s with hooks := s.hooks.removeObserver place number } where
  linked := h.linked
  rooted := h.rooted
  stores _ _ hid := (h.stores hid).grows (.refl s.stores)
  offers := by simpa using h.offers
  requests _ _ _ hwaits :=
    (h.requests hwaits.of_removeObserver).grows (.refl s.stores) (Nat.le_refl _)

/-- Everything that handling an event can do: nothing, if the observer has left, and otherwise work
for the root on whose behalf it waits, after which it may leave and the root is looked at. -/
theorem handle_cases (hs : scan.Explained s) {event : HookEvent} (hdue : scan.Due s event) :
    scan.handle s event = s ∨
      ∃ kind observer s' hooks, scan.Requests s kind observer ∧ scan.Runs observer.root s s' ∧
        (hooks = s'.hooks ∨ hooks = s'.hooks.removeObserver event.hook event.observer) ∧
        scan.handle s event = scan.emitIfDetected { s' with hooks } observer.root := by
  rw [handle]
  cases hhook : s.hooks.hook? event.hook with
  | none => exact .inl rfl
  | some hook =>
    cases hobserver : s.hooks.observer? event.hook event.observer with
    | none => exact .inl rfl
    | some observer =>
      obtain ⟨hrequests, hfires⟩ := hs.requests_of_observer? hhook hobserver hdue
      have hruns := deliver_runs hs hrequests hdue.site_eq hfires
      simp only
      split
      · exact .inr ⟨hook.kind, observer, _, _, hrequests, hruns, .inr rfl, rfl⟩
      · exact .inr ⟨hook.kind, observer, _, _, hrequests, hruns, .inl rfl, rfl⟩

theorem Sound.handle (hs : scan.Sound s) {event : HookEvent} (hdue : scan.Due s event) :
    scan.Sound (scan.handle s event) ∧ s.hooks.kinds <+: (scan.handle s event).hooks.kinds := by
  rcases handle_cases hs.explained hdue with
    heq | ⟨kind, observer, s', hooks, hrequests, hruns, hhooks, heq⟩ <;> rw [heq]
  · exact ⟨hs, List.prefix_rfl⟩
  · obtain ⟨top, htop, hpar, -⟩ := hs.explained.exists_root hrequests
    have hexplained := hruns.explained hs.explained
    have hkinds : hooks.kinds = s'.hooks.kinds := by
      rcases hhooks with rfl | rfl
      · rfl
      · exact HookRepository.kinds_removeObserver ..
    refine ⟨hs.settle htop hpar hruns.works ?_ hruns.emitted_eq, ?_⟩
    · rcases hhooks with rfl | rfl
      · exact hexplained
      · exact hexplained.removeObserver ..
    · rw [hooks_emitIfDetected, hkinds]
      exact hruns.hooks_works.kinds

/-! ## Root rules -/

/-- The state with a new root for a rule, whose evaluation is planned. -/
def plant (s : ScanState) (rule : RuleId) : ScanState :=
  (s.withStores (s.stores.createRoot rule).1).plan

/-- A store that is there when a new root was planted is that root or was there before. -/
theorem store?_plant_cases {rule : RuleId} {id : StoreId} {store : Store}
    (h : (plant s rule).stores.store? id = some store) :
    (id = s.stores.size ∧ store = Arena.rootStore rule s.stores.size) ∨
      s.stores.store? id = some store := by
  rw [plant, ScanState.stores_plan, ScanState.withStores_stores] at h
  exact Arena.store?_createRoot_cases h

theorem Explained.plant (h : scan.Explained s) (rule : RuleId) : scan.Explained (plant s rule) := by
  have hgrows : s.stores.Grows (Scan.plant s rule).stores := Arena.grows_createRoot s.stores rule
  have hlinked : (Scan.plant s rule).stores.Linked := h.linked.createRoot rule
  refine ⟨hlinked, h.rooted.grows h.linked hlinked hgrows ?_, ?_, h.offers, ?_⟩
  · intro id store origin hid hge hhook
    rcases store?_plant_cases hid with ⟨rfl, rfl⟩ | hold
    · cases hhook
    · exact absurd (Arena.lt_size_of_store? hold) (Nat.not_lt_of_le hge)
  · intro id store hid
    rcases store?_plant_cases hid with ⟨rfl, rfl⟩ | hold
    · exact .tried rfl nofun
    · exact (h.stores hold).grows hgrows
  · intro kind number observer hwaits
    exact (h.requests hwaits).grows hgrows (Nat.le_refl _)

theorem store?_plant (s : ScanState) (rule : RuleId) :
    (plant s rule).stores.store? s.stores.size = some (Arena.rootStore rule s.stores.size) := by
  rw [plant, ScanState.stores_plan, ScanState.withStores_stores, Arena.store?_createRoot,
    if_pos rfl]

theorem works_plant (s : ScanState) (rule : RuleId) :
    s.stores.Works s.stores.size (plant s rule).stores := Arena.works_createRoot s.stores rule

/-- Nothing is detected for a new root. -/
theorem Sound.plant (h : scan.Sound s) (rule : RuleId) : scan.Sound (plant s rule) := by
  have hworks := works_plant s rule
  have hexplained := h.explained.plant rule
  refine ⟨hexplained, fun id hid => ?_, h.nodup, fun id store hid hnone => ?_⟩
  · obtain ⟨store, hstore, hnone⟩ := h.emitted hid
    obtain ⟨store', hstore', hg⟩ := hworks.grows hstore
    exact ⟨store', hstore', hg.parent.trans hnone⟩
  · have hroot := (hexplained.linked.root hid hnone).2
    by_cases hnew : id = s.stores.size
    · subst hnew
      constructor
      · rintro ⟨below, store', hbelow, hroot', hdet⟩
        -- only the new root itself is of the new tree
        rcases store?_plant_cases hbelow with ⟨-, rfl⟩ | hold
        · cases hdet
        · have hlt := Arena.lt_size_of_store? hold
          exact absurd (hroot' ▸ hexplained.linked.root_le hbelow) (Nat.not_le_of_lt hlt)
      · intro hmem
        obtain ⟨store', hold, -⟩ := h.emitted hmem
        exact absurd (Arena.lt_size_of_store? hold) (Nat.lt_irrefl _)
    · rw [hworks.detects_iff hnew]
      exact h.detected ((hworks.frame (hroot ▸ hnew)).mp hid) hnone

/-- The rule of a new root may be evaluated anywhere. -/
theorem ready_plant (scan : Scan) (s : ScanState) (rule : RuleId) (site : Site) :
    scan.Ready (plant s rule).start s.stores.size s.stores.size .start site :=
  ⟨_, store?_plant s rule, rfl, fun _ => ⟨rfl, rfl, rfl⟩, fun _ => rfl, nofun⟩

variable (scan) in
/-- The state after the rule of a new root is evaluated at a node. -/
def attempt (n : NodeId) (s : ScanState) (rule : RuleId) : ScanState :=
  scan.evaluateAt scan.evaluate .start n (plant s rule) s.stores.size

theorem attempt_runs (hs : scan.Explained s) (n : NodeId) (rule : RuleId) :
    scan.Runs s.stores.size (plant s rule) (scan.attempt n s rule) :=
  evaluateAt_runs (evaluate_runs scan) (hs.plant rule) fun _ => ready_plant scan s rule _

theorem tryRoot_eq (scan : Scan) (n : NodeId) (s : ScanState) (rule : RuleId) :
    scan.tryRoot n s rule =
      if (scan.attempt n s rule).stores.hasDetections s.stores.size then
        scan.emit (scan.attempt n s rule) s.stores.size
      else if (scan.attempt n s rule).hooks.hasPendingForRoot s.stores.size then
        scan.attempt n s rule
      else { scan.attempt n s rule with
        stores := (scan.attempt n s rule).stores.truncate s.stores.size } := rfl

/-- A root for which something was detected or something waits is kept, and looked at. -/
theorem tryRoot_of_kept {n : NodeId} {rule : RuleId}
    (h : (scan.attempt n s rule).stores.hasDetections s.stores.size = true ∨
      (scan.attempt n s rule).hooks.hasPendingForRoot s.stores.size = true) :
    scan.tryRoot n s rule = scan.emitIfDetected (scan.attempt n s rule) s.stores.size := by
  rw [tryRoot_eq, emitIfDetected]
  split
  · rfl
  · next hnone => rw [if_pos (h.resolve_left hnone)]

/-- Of any other root nothing is left. -/
theorem tryRoot_of_idle (hs : scan.Explained s) {n : NodeId} {rule : RuleId}
    (hnone : ¬ (scan.attempt n s rule).stores.hasDetections s.stores.size = true)
    (hidle : ¬ (scan.attempt n s rule).hooks.hasPendingForRoot s.stores.size = true) :
    scan.tryRoot n s rule = { scan.attempt n s rule with stores := s.stores } ∧
      (scan.attempt n s rule).hooks = s.hooks := by
  have hruns := attempt_runs hs n rule
  have hworks := (works_plant s rule).trans hruns.works
  constructor
  · rw [tryRoot_eq, if_neg hnone, if_neg hidle, hworks.truncate_eq hs.linked]
  · rcases hruns.hooks_works.trace with heq | hpending
    · exact heq
    · exact absurd hpending hidle

/-- Everything that trying a root rule can do.  Evaluating the rule is work for a new root; then
either that root is looked at, or nothing is left of it. -/
theorem tryRoot_cases (hs : scan.Explained s) (n : NodeId) (rule : RuleId) :
    ∃ s', scan.Runs s.stores.size (plant s rule) s' ∧
      (scan.tryRoot n s rule = scan.emitIfDetected s' s.stores.size ∨
        (scan.tryRoot n s rule = { s' with stores := s.stores } ∧ s'.hooks = s.hooks)) := by
  refine ⟨scan.attempt n s rule, attempt_runs hs n rule, ?_⟩
  by_cases hdetected : (scan.attempt n s rule).stores.hasDetections s.stores.size = true
  · exact .inl (tryRoot_of_kept (.inl hdetected))
  · by_cases hpending : (scan.attempt n s rule).hooks.hasPendingForRoot s.stores.size = true
    · exact .inl (tryRoot_of_kept (.inr hpending))
    · exact .inr (tryRoot_of_idle hs hdetected hpending)

theorem Sound.tryRoot (hs : scan.Sound s) (n : NodeId) (rule : RuleId) :
    scan.Sound (scan.tryRoot n s rule) := by
  obtain ⟨s', hruns, heq | ⟨heq, hhooks⟩⟩ := tryRoot_cases hs.explained n rule <;> rw [heq]
  · exact (hs.plant rule).settle (store?_plant s rule) rfl hruns.works
      (hruns.explained (hs.explained.plant rule)) hruns.emitted_eq
  · exact hs.congr rfl hhooks (Nat.le_of_eq hruns.position_eq.symm) hruns.emitted_eq

theorem sound_kept (scan : Scan) : scan.Kept scan.Sound where
  empty := sound_empty
  meet _ hs := hs.congr rfl rfl (Nat.le_succ _) rfl
  serve _ hdue hs := hs.handle hdue
  attempt _ _ hs := hs.tryRoot ..

/-- **The state is sound after any number of nodes.** -/
theorem sound_after (scan : Scan) (count : Nat) : scan.Sound (scan.after count) :=
  (sound_kept scan).after count

end Scan
end CryptoUsage
