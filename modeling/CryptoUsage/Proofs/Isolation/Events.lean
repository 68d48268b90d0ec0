import CryptoUsage.Proofs.Hooks.Observing
import CryptoUsage.Proofs.Isolation.Frame

/-!
# Events in two scans

`Alike rule` relates the state of a scan to that of another one in which no root rule but one is
tried: the latter stands in the former, the roots for the rule are those that stand for others,
and they were emitted in the same order.

Handling an event for an observer that stands for another one, together with the event for that
one, keeps two states alike (`Alike.handle`); and so does handling any other event in the larger
state only (`Alike.handle_other`).

## How it goes

An event is handled by serving the observer that it names, if it still waits, and by a look at its
root, which may be emitted then.  The two halves are shown apart.

* Serving.  `handle_of_some` and `handle_of_none` say what handling is, in terms of those who
  wait.  Serving both observers is the same work in both states (`Mirrors.serve`), by
  `Proofs/Isolation/Lockstep`; serving one of another tree is work for other trees
  (`Mirrors.serve_other`), by `Proofs/Isolation/Frame`.
* The look at a root.  Roots that stand for each other are emitted together, so the order is kept
  (`Mirrors.emitted_emitIfDetected`), and another root makes no difference to those that count
  (`filter_emitted_emitIfDetected`).  `Alike.settle` and `Alike.settle_other` put work and look
  together; they are used again when root rules are tried.
-/

set_option autoImplicit false

namespace CryptoUsage
namespace Scan

variable {scan : Scan} {rule : RuleId} {f f' : StoreId → StoreId}
  {g g' : ObserverId → ObserverId} {s s' t t' : ScanState} {x y : StoreId}

variable (scan) in
/-- A state, and one in which only one of the root rules was tried, agree on that rule. -/
structure Alike (rule : RuleId) (f : StoreId → StoreId) (g : ObserverId → ObserverId)
    (s t : ScanState) : Prop where
  sound : scan.Sound s
  sound' : scan.Sound t
  mirrors : scan.Mirrors f g s t
  /-- The emitted roots that stand for others are in the order of those. -/
  emitted : s.emitted.filter (isImage f t.stores.size) = t.emitted.map f
  /-- The roots for the rule are those that stand for others. -/
  roots : ∀ {id store}, s.stores.store? id = some store → store.parent = none →
    (store.rule = rule ↔ isImage f t.stores.size id = true)

theorem Mirrors.congr (h : scan.Mirrors f g s t) (hstores : s'.stores = s.stores)
    (hhooks : s'.hooks = s.hooks) (hstores' : t'.stores = t.stores) (hhooks' : t'.hooks = t.hooks)
    (hposition : s'.position = t'.position) : scan.Mirrors f g s' t' where
  stores := by rw [hstores, hstores']; exact h.stores
  hooks := by rw [hstores, hstores', hhooks, hhooks']; exact h.hooks
  offers := hhooks ▸ h.offers
  position_eq := hposition

/-! ## Emitting -/

theorem Sound.emitted_lt (h : scan.Sound s) {id : StoreId} (hid : id ∈ s.emitted) :
    id < s.stores.size := by
  obtain ⟨store, hstore, -⟩ := h.emitted hid
  exact Arena.lt_size_of_store? hstore

/-- What was emitted so far is in the same order when the renaming is prolonged. -/
theorem Alike.emitted_prolong (h : scan.Alike rule f g s t) {m n : Nat}
    (hf : Prolongs f s.stores.size t.stores.size f' m n) :
    s.emitted.filter (isImage f' n) = t.emitted.map f' := by
  have hleft : s.emitted.filter (isImage f' n) = s.emitted.filter (isImage f t.stores.size) :=
    List.filter_congr fun _ hid => hf.isImage_eq (h.sound.emitted_lt hid)
  have hright : t.emitted.map f' = t.emitted.map f :=
    List.map_congr_left fun _ hid => hf.eq (h.sound'.emitted_lt hid)
  rw [hleft, hright, h.emitted]

/-- A look at roots that stand for each other keeps the order of what is emitted. -/
theorem Mirrors.emitted_emitIfDetected (h : scan.Mirrors f g s t)
    (hx : Stands f t.stores.size x y) (hlt : ∀ id ∈ t.emitted, id < t.stores.size)
    (hemitted : s.emitted.filter (isImage f t.stores.size) = t.emitted.map f) :
    (scan.emitIfDetected s x).emitted.filter (isImage f t.stores.size) =
      (scan.emitIfDetected t y).emitted.map f := by
  obtain ⟨store, hy⟩ := Arena.exists_store? hx.lt
  have hdetections : s.stores.hasDetections x = t.stores.hasDetections y := by
    rw [← hx.eq]
    exact h.stores.embeds.hasDetections_eq h.stores.linked h.stores.linked' hy
  have himage : isImage f t.stores.size x = true := isImage_iff.mpr ⟨y, hx⟩
  have hmem : x ∈ s.emitted ↔ y ∈ t.emitted := by
    have hfilter : x ∈ s.emitted ↔ x ∈ s.emitted.filter (isImage f t.stores.size) := by
      rw [List.mem_filter, and_iff_left himage]
    rw [hfilter, hemitted, List.mem_map]
    constructor
    · rintro ⟨id, hid, heq⟩
      exact h.stores.embeds.injective (hlt id hid) hx.lt (heq.trans hx.eq.symm) ▸ hid
    · exact fun hid => ⟨y, hid, hx.eq⟩
  rcases emitIfDetected_cases scan s x with ⟨heq, hknown⟩ | ⟨hdetected, hnew, heq⟩ <;>
    rcases emitIfDetected_cases scan t y with ⟨heq', hknown'⟩ | ⟨hdetected', hnew', heq'⟩
  · rw [heq, heq', hemitted]
  · exact absurd (hmem.mp (hknown (hdetections.trans hdetected'))) hnew'
  · exact absurd (hmem.mpr (hknown' (hdetections.symm.trans hdetected))) hnew
  · rw [heq, heq', List.filter_append, hemitted, List.map_append, List.filter_cons_of_pos himage,
      List.filter_nil, List.map_cons, List.map_nil, hx.eq]

/-- A look at another root. -/
theorem filter_emitted_emitIfDetected {count : Nat} (hx : isImage f count x = false) :
    (scan.emitIfDetected s x).emitted.filter (isImage f count) =
      s.emitted.filter (isImage f count) := by
  rcases emitIfDetected_cases scan s x with ⟨heq, -⟩ | ⟨-, -, heq⟩ <;> rw [heq]
  rw [List.filter_append, List.filter_cons_of_neg (by simp [hx]), List.filter_nil, List.append_nil]

/-! ## Looking at a root after work -/

/-- Work in both states after which roots that stand for each other are looked at. -/
theorem Alike.settle (h : scan.Alike rule f g s t)
    (hf : Prolongs f s.stores.size t.stores.size f' s'.stores.size t'.stores.size)
    (hm : scan.Mirrors f' g' s' t') (hx : Stands f' t'.stores.size x y)
    (hemitted : s'.emitted = s.emitted) (hemitted' : t'.emitted = t.emitted)
    (hsound : scan.Sound (scan.emitIfDetected s' x))
    (hsound' : scan.Sound (scan.emitIfDetected t' y))
    (hroots : ∀ {id store}, s'.stores.store? id = some store → store.parent = none →
      (store.rule = rule ↔ isImage f' t'.stores.size id = true)) :
    scan.Alike rule f' g' (scan.emitIfDetected s' x) (scan.emitIfDetected t' y) where
  sound := hsound
  sound' := hsound'
  mirrors := hm.congr (by simp) (by simp) (by simp) (by simp) (by simpa using hm.position_eq)
  emitted := by
    rw [stores_emitIfDetected]
    refine hm.emitted_emitIfDetected hx (fun id hid => ?_) ?_
    · rw [hemitted'] at hid
      exact Nat.lt_of_lt_of_le (h.sound'.emitted_lt hid) hf.source_le
    · rw [hemitted, hemitted']
      exact h.emitted_prolong hf
  roots := by
    rw [stores_emitIfDetected, stores_emitIfDetected]
    exact hroots

/-- Work in the larger state after which a root that stands for no other is looked at. -/
theorem Alike.settle_other (h : scan.Alike rule f g s t) (hm : scan.Mirrors f g s' t)
    (hx : isImage f t.stores.size x = false) (hemitted : s'.emitted = s.emitted)
    (hsound : scan.Sound (scan.emitIfDetected s' x))
    (hroots : ∀ {id store}, s'.stores.store? id = some store → store.parent = none →
      (store.rule = rule ↔ isImage f t.stores.size id = true)) :
    scan.Alike rule f g (scan.emitIfDetected s' x) t where
  sound := hsound
  sound' := h.sound'
  mirrors := hm.congr (by simp) (by simp) rfl rfl (by simpa using hm.position_eq)
  emitted := by rw [filter_emitted_emitIfDetected hx, hemitted, h.emitted]
  roots := by
    rw [stores_emitIfDetected]
    exact hroots

/-- No root was made. -/
theorem Alike.roots_of_runs (h : scan.Alike rule f g s t) {m n : Nat} {root : StoreId}
    (hf : Prolongs f s.stores.size t.stores.size f' m n) (hruns : scan.Runs root s s')
    {id : StoreId} {store : Store} (hid : s'.stores.store? id = some store)
    (hnone : store.parent = none) : store.rule = rule ↔ isImage f' n id = true := by
  obtain ⟨old, hold, hnone', hrule⟩ := hruns.root_of_new hid hnone
  rw [hf.isImage_eq (Arena.lt_size_of_store? hold), ← hrule]
  exact h.roots hold hnone'

/-! ## Serving -/

variable (scan) in
/-- The state after the observer that an event names is served, and has left if it is to. -/
def serve (s : ScanState) (event : HookEvent) (kind : HookKind) (observer : Observer) : ScanState :=
  let (s', satisfied) := scan.deliver kind observer event.trigger s
  { s' with hooks :=
      if satisfied && kind.isOneShot then s'.hooks.removeObserver event.hook event.observer
      else s'.hooks }

theorem exists_hook_of_kinds {event : HookEvent} {kind : HookKind}
    (hkind : s.hooks.kinds[event.hook]? = some kind) :
    ∃ hook, s.hooks.hook? event.hook = some hook ∧ hook.kind = kind := by
  rw [HookRepository.kinds, List.getElem?_map] at hkind
  exact Option.map_eq_some_iff.mp hkind

theorem handle_of_none (hnodup : s.hooks.kinds.Nodup) {event : HookEvent} {kind : HookKind}
    (hkind : s.hooks.kinds[event.hook]? = some kind)
    (hlookup : (s.hooks.waiting kind).lookup event.observer = none) : scan.handle s event = s := by
  obtain ⟨hook, hhook, rfl⟩ := exists_hook_of_kinds hkind
  rw [← HookRepository.observer?_eq_lookup hnodup hkind] at hlookup
  simp only [handle, hhook, hlookup]

theorem handle_of_some (hnodup : s.hooks.kinds.Nodup) {event : HookEvent} {kind : HookKind}
    (hkind : s.hooks.kinds[event.hook]? = some kind) {observer : Observer}
    (hlookup : (s.hooks.waiting kind).lookup event.observer = some observer) :
    scan.handle s event = scan.emitIfDetected (scan.serve s event kind observer) observer.root := by
  obtain ⟨hook, hhook, rfl⟩ := exists_hook_of_kinds hkind
  rw [← HookRepository.observer?_eq_lookup hnodup hkind] at hlookup
  simp only [handle, hhook, hlookup, serve]
  split <;> rfl

/-- The observer that an event names waits, and serving it is work for its root. -/
theorem Due.serves (hs : scan.Sound s) {event : HookEvent} (hdue : scan.Due s event)
    {kind : HookKind} (hkind : s.hooks.kinds[event.hook]? = some kind) {observer : Observer}
    (hlookup : (s.hooks.waiting kind).lookup event.observer = some observer) :
    s.hooks.Waits kind event.observer observer ∧
      scan.Runs observer.root s (scan.deliver kind observer event.trigger s).1 := by
  have hwaits := HookRepository.mem_waiting.mp (HookRepository.mem_of_lookup hlookup)
  obtain ⟨kind', hkind', hfires⟩ := hdue.fires
  obtain rfl := Option.some.inj (hkind.symm.trans hkind')
  exact ⟨hwaits, deliver_runs hs.explained (hs.explained.requests hwaits) hdue.site_eq hfires⟩

/-- Serving an observer and the one that stands for it. -/
theorem Mirrors.serve (h : scan.Mirrors f g s t) (hs : scan.Sound s) (ht : scan.Sound t)
    {event event' : HookEvent} (hdue : scan.Due s event) (hdue' : scan.Due t event')
    (htrigger : event.trigger = event'.trigger) {kind : HookKind}
    (hkind : s.hooks.kinds[event.hook]? = some kind)
    (hkind' : t.hooks.kinds[event'.hook]? = some kind)
    (hnumber : Stands g t.hooks.nextObserver event.observer event'.observer)
    {observer observer' : Observer}
    (hlookup : (s.hooks.waiting kind).lookup event.observer = some observer)
    (hlookup' : (t.hooks.waiting kind).lookup event'.observer = some observer')
    (hobserver : ObserverStands f t.stores.size observer observer') :
    scan.Mirrored f g s t (scan.serve s event kind observer)
      (scan.serve t event' kind observer') := by
  have hruns := (hdue.serves hs hkind hlookup).2
  have hruns' := (hdue'.serves ht hkind' hlookup').2
  rw [htrigger] at hruns
  obtain ⟨⟨f', g', hc, hm⟩, hsame⟩ := deliver_mirrored h hobserver kind event'.trigger
  simp only [Scan.serve, htrigger, hsame]
  split
  · have hplace := getElem?_mono hruns.hooks_works.kinds hkind
    have hplace' := getElem?_mono hruns'.hooks_works.kinds hkind'
    refine ⟨f', g', ⟨hc.stores, hc.numbers⟩, hm.stores, ?_, fun other hother => ?_, hm.position_eq⟩
    · exact hm.hooks.removeObserver hplace hplace' (hc.numbers.stands hnumber)
    · rw [HookRepository.kinds_removeObserver] at hother
      exact hm.offers other hother
  · exact ⟨f', g', hc, hm⟩

/-- Serving an observer that stands for no other. -/
theorem Mirrors.serve_other (h : scan.Mirrors f g s t) (hs : scan.Sound s) {event : HookEvent}
    (hdue : scan.Due s event) {kind : HookKind} (hkind : s.hooks.kinds[event.hook]? = some kind)
    (hnumber : isImage g t.hooks.nextObserver event.observer = false) {observer : Observer}
    (hlookup : (s.hooks.waiting kind).lookup event.observer = some observer)
    (hroot : isImage f t.stores.size observer.root = false) :
    scan.Mirrors f g (scan.serve s event kind observer) t ∧
      Continues f g s t f g (scan.serve s event kind observer) t := by
  have hruns := (hdue.serves hs hkind hlookup).2
  have hm := hruns.mirrors h hroot
  have hsize := hruns.works.grows.size_le
  have hnext := hruns.nextObserver_le
  simp only [Scan.serve]
  split
  · have hplace := getElem?_mono hruns.hooks_works.kinds hkind
    refine ⟨⟨hm.stores, hm.hooks.removeObserver_other hplace hnumber, fun other hother => ?_,
      hm.position_eq⟩, .of_le f t.stores.size hsize, .of_le g t.hooks.nextObserver hnext⟩
    rw [HookRepository.kinds_removeObserver] at hother
    exact hm.offers other hother
  · exact ⟨hm, .of_le f t.stores.size hsize, .of_le g t.hooks.nextObserver hnext⟩

/-! ## Handling events -/

/-- **Handling an event for an observer together with the one for the observer it stands for.** -/
theorem Alike.handle (h : scan.Alike rule f g s t) {event event' : HookEvent}
    (hdue : scan.Due s event) (hdue' : scan.Due t event')
    (htrigger : event.trigger = event'.trigger)
    (hkinds : s.hooks.kinds[event.hook]? = t.hooks.kinds[event'.hook]?)
    (hnumber : Stands g t.hooks.nextObserver event.observer event'.observer) :
    ∃ f' g', Continues f g s t f' g' (scan.handle s event) (scan.handle t event') ∧
      scan.Alike rule f' g' (scan.handle s event) (scan.handle t event') := by
  obtain ⟨kind, hkind', -⟩ := hdue'.fires
  have hkind := hkinds.trans hkind'
  have hnodup := h.mirrors.hooks.orderly.kinds_nodup
  have hnodup' := h.mirrors.hooks.orderly'.kinds_nodup
  have hlookup := h.mirrors.hooks.lookup_eq kind hnumber
  have hsound := (h.sound.handle hdue).1
  have hsound' := (h.sound'.handle hdue').1
  cases hfound : (t.hooks.waiting kind).lookup event'.observer with
  | none =>
    rw [hfound, Option.map_none] at hlookup
    rw [handle_of_none hnodup hkind hlookup, handle_of_none hnodup' hkind' hfound]
    exact ⟨f, g, .refl .., h⟩
  | some observer =>
    rw [hfound, Option.map_some] at hlookup
    obtain ⟨hwaits, hruns⟩ := hdue.serves h.sound hkind hlookup
    obtain ⟨hwaits', hruns'⟩ := hdue'.serves h.sound' hkind' hfound
    obtain ⟨hrequester, hroot⟩ := h.mirrors.hooks.within' hwaits'
    obtain ⟨f', g', hc, hm⟩ := h.mirrors.serve h.sound h.sound' hdue hdue' htrigger hkind hkind'
      hnumber hlookup hfound ⟨hrequester, hroot, rfl⟩
    have hstands : Stands f' (scan.serve t event' kind observer).stores.size
        (observer.rename f).root observer.root := hc.stores.stands ⟨hroot, rfl⟩
    rw [handle_of_some hnodup hkind hlookup] at hsound ⊢
    rw [handle_of_some hnodup' hkind' hfound] at hsound' ⊢
    refine ⟨f', g', ⟨?_, ?_⟩, ?_⟩
    · simpa using hc.stores
    · simpa using hc.numbers
    · exact h.settle hc.stores hm hstands hruns.emitted_eq hruns'.emitted_eq hsound hsound'
        fun hid hnone => h.roots_of_runs hc.stores hruns hid hnone

/-- **Handling any other event.** -/
theorem Alike.handle_other (h : scan.Alike rule f g s t) {event : HookEvent}
    (hdue : scan.Due s event)
    (hnumber : isImage g t.hooks.nextObserver event.observer = false) :
    Continues f g s t f g (scan.handle s event) t ∧
      scan.Alike rule f g (scan.handle s event) t := by
  obtain ⟨kind, hkind, -⟩ := hdue.fires
  have hnodup := h.mirrors.hooks.orderly.kinds_nodup
  have hsound := (h.sound.handle hdue).1
  cases hlookup : (s.hooks.waiting kind).lookup event.observer with
  | none =>
    rw [handle_of_none hnodup hkind hlookup]
    exact ⟨.refl .., h⟩
  | some observer =>
    obtain ⟨hwaits, hruns⟩ := hdue.serves h.sound hkind hlookup
    have hroot : isImage f t.stores.size observer.root = false := by
      refine Bool.eq_false_iff.mpr ?_
      intro himage
      obtain ⟨n, _, -, hn, -⟩ := h.mirrors.hooks.exists_of_isImage hwaits himage
      exact isImage_eq_false.mp hnumber n hn
    obtain ⟨hm, hc⟩ := h.mirrors.serve_other h.sound hdue hkind hnumber hlookup hroot
    rw [handle_of_some hnodup hkind hlookup] at hsound ⊢
    refine ⟨⟨?_, ?_⟩, ?_⟩
    · simpa using hc.stores
    · simpa using hc.numbers
    · exact h.settle_other hm hroot hruns.emitted_eq hsound fun hid hnone =>
        h.roots_of_runs hc.stores hruns hid hnone

end Scan
end CryptoUsage
