import CryptoUsage.Proofs.Isolation.Events

/-!
# The course of two scans

At a site, both scans serve the observers whose hooks fire there, and then the one tries all root
rules and the other only one of them.  States that are alike stay alike while the events are
handled (`Alike.foldl_handle`) and while the root rules are tried (`Alike.foldl_tryRoot`), and so
while nodes are met.

## How it goes

* Events.  The two scans have different events: in the larger one there are more, for observers of
  other rules.  `Paired` says that those for observers that stand for others are the events for
  those, in the same order.  It is so at the beginning, if the hooks that fire stand in the same
  order (`Alike.paired`), and it stays so while events are handled, since hooks keep their places
  and observers their numbers (`Paired.mono`).  The induction is on the events of the larger
  scan.  The next one is for an observer of another rule (`Paired.of_cons_other`), or it goes
  together with the next one of the smaller scan (`Paired.of_cons`).
* Root rules.  The rule in question is in the list once.  What comes before and after it are other
  rules, tried in the larger scan only (`Alike.foldl_tryRoot_other`), and it itself is tried in
  both (`Alike.tryRoot`), where it matters that a root for which nothing was found is thrown away
  in both or in neither.
-/

set_option autoImplicit false

namespace CryptoUsage

namespace HookRepository

/-- An event is for an observer that waits. -/
theorem exists_waits_of_mem_observe {repository : HookRepository} {u : CompilationUnit}
    {position : Nat} {site : Site} {event : HookEvent}
    (h : event ∈ repository.observe u position site) :
    ∃ kind observer, repository.Waits kind event.observer observer := by
  obtain ⟨⟨hook, place⟩, hmem, hevent⟩ := List.mem_flatMap.mp h
  have hhook := List.mem_of_getElem? (List.mem_zipIdx_iff_getElem?.mp hmem)
  simp only at hevent
  split at hevent
  · obtain ⟨entry, hentry, rfl⟩ := List.mem_map.mp hevent
    exact ⟨hook.kind, entry.2, hook, hhook, rfl, (List.mem_filter.mp hentry).1⟩
  · cases hevent

end HookRepository

namespace Scan

variable {scan : Scan} {rule : RuleId} {f f' : StoreId → StoreId}
  {g g' : ObserverId → ObserverId} {s s' t t' : ScanState}

/-! ## Events that go together -/

variable (scan) in
/-- Events are due in two states, and those for observers that stand for others are the events for
those, in the same order. -/
structure Paired (g : ObserverId → ObserverId) (s t : ScanState)
    (events events' : List HookEvent) : Prop where
  due : ∀ event ∈ events, scan.Due s event ∧ event.observer < s.hooks.nextObserver
  due' : ∀ event ∈ events', scan.Due t event ∧ event.observer < t.hooks.nextObserver
  eq : (events.filter fun event => isImage g t.hooks.nextObserver event.observer).map
      s.hooks.notice =
    events'.map fun event => (t.hooks.kinds[event.hook]?, g event.observer, event.trigger)

theorem Due.kinds_eq {event : HookEvent} (h : scan.Due s event)
    (hkinds : s.hooks.kinds <+: s'.hooks.kinds) :
    s'.hooks.kinds[event.hook]? = s.hooks.kinds[event.hook]? := by
  obtain ⟨kind, hkind, -⟩ := h.fires
  rw [hkind, getElem?_mono hkinds hkind]

/-- Events that go together still do so later. -/
theorem Paired.mono {events events' : List HookEvent} (h : scan.Paired g s t events events')
    (hc : Continues f g s t f' g' s' t') (hkinds : s.hooks.kinds <+: s'.hooks.kinds)
    (hkinds' : t.hooks.kinds <+: t'.hooks.kinds) : scan.Paired g' s' t' events events' where
  due event hevent := by
    obtain ⟨hdue, hlt⟩ := h.due event hevent
    exact ⟨hdue.mono hkinds, Nat.lt_of_lt_of_le hlt hc.numbers.target_le⟩
  due' event hevent := by
    obtain ⟨hdue, hlt⟩ := h.due' event hevent
    exact ⟨hdue.mono hkinds', Nat.lt_of_lt_of_le hlt hc.numbers.source_le⟩
  eq := by
    have hfilter : (events.filter fun event =>
        isImage g' t'.hooks.nextObserver event.observer) =
        events.filter fun event => isImage g t.hooks.nextObserver event.observer :=
      List.filter_congr fun event hevent => hc.numbers.isImage_eq (h.due event hevent).2
    have hleft : ∀ event ∈ events, s'.hooks.notice event = s.hooks.notice event := by
      intro event hevent
      rw [HookRepository.notice, HookRepository.notice, (h.due event hevent).1.kinds_eq hkinds]
    have hright : ∀ event ∈ events',
        (t'.hooks.kinds[event.hook]?, g' event.observer, event.trigger) =
          (t.hooks.kinds[event.hook]?, g event.observer, event.trigger) := by
      intro event hevent
      obtain ⟨hdue, hlt⟩ := h.due' event hevent
      rw [hdue.kinds_eq hkinds', hc.numbers.eq hlt]
    rw [hfilter, List.map_congr_left fun event hevent =>
      hleft event (List.mem_filter.mp hevent).1, h.eq, List.map_congr_left hright]

/-- An event for an observer that stands for no other. -/
theorem Paired.of_cons_other {event : HookEvent} {events events' : List HookEvent}
    (h : scan.Paired g s t (event :: events) events')
    (hnumber : isImage g t.hooks.nextObserver event.observer = false) :
    scan.Paired g s t events events' where
  due other hother := h.due other (List.mem_cons_of_mem event hother)
  due' := h.due'
  eq := by rw [← h.eq, List.filter_cons_of_neg (by simp [hnumber])]

/-- An event for an observer that stands for another one goes together with the first event left for
those. -/
theorem Paired.of_cons {event : HookEvent} {events events' : List HookEvent}
    (h : scan.Paired g s t (event :: events) events')
    (hnumber : isImage g t.hooks.nextObserver event.observer = true) :
    ∃ event' rest, events' = event' :: rest ∧ event.trigger = event'.trigger ∧
      s.hooks.kinds[event.hook]? = t.hooks.kinds[event'.hook]? ∧
      Stands g t.hooks.nextObserver event.observer event'.observer ∧
      scan.Paired g s t events rest := by
  have heq := h.eq
  rw [List.filter_cons, if_pos hnumber, List.map_cons] at heq
  cases events' with
  | nil => cases heq
  | cons event' rest =>
    rw [List.map_cons, List.cons.injEq, HookRepository.notice, Prod.mk.injEq, Prod.mk.injEq] at heq
    obtain ⟨⟨hkinds, hobserver, htrigger⟩, hrest⟩ := heq
    refine ⟨event', rest, rfl, htrigger, hkinds, ⟨?_, hobserver.symm⟩, ?_, ?_, hrest⟩
    · exact (h.due' event' List.mem_cons_self).2
    · exact fun other hother => h.due other (List.mem_cons_of_mem event hother)
    · exact fun other hother => h.due' other (List.mem_cons_of_mem event' hother)

/-- **States stay alike while events that go together are handled.** -/
theorem Alike.foldl_handle {events events' : List HookEvent} (h : scan.Alike rule f g s t)
    (hpaired : scan.Paired g s t events events') :
    ∃ f' g', scan.Alike rule f' g' (events.foldl scan.handle s)
      (events'.foldl scan.handle t) := by
  induction events generalizing f g s t events' with
  | nil =>
    have heq := hpaired.eq
    rw [List.filter_nil, List.map_nil, eq_comm, List.map_eq_nil_iff] at heq
    rw [heq]
    exact ⟨f, g, h⟩
  | cons event events ih =>
    have hdue := (hpaired.due event List.mem_cons_self).1
    have hkinds := (h.sound.handle hdue).2
    cases hnumber : isImage g t.hooks.nextObserver event.observer with
    | false =>
      obtain ⟨hc, halike⟩ := h.handle_other hdue hnumber
      exact ih halike ((hpaired.of_cons_other hnumber).mono hc hkinds List.prefix_rfl)
    | true =>
      obtain ⟨event', rest, rfl, htrigger, hsame, hstands, hrest⟩ := hpaired.of_cons hnumber
      have hdue' := (hpaired.due' event' List.mem_cons_self).1
      have hkinds' := (h.sound'.handle hdue').2
      obtain ⟨f', g', hc, halike⟩ := h.handle hdue hdue' htrigger hsame hstands
      rw [List.foldl_cons, List.foldl_cons]
      exact ih halike (hrest.mono hc hkinds hkinds')

/-- The events at a site go together if the hooks that fire there stand in the same order. -/
theorem Alike.paired (h : scan.Alike rule f g s t) {site : Site}
    (hsite : scan.unit.site? site.node = some site)
    (horder : (t.hooks.kinds.filter (·.fires scan.unit site)).Pairwise fun kind kind' =>
      s.hooks.kinds.idxOf kind ≤ s.hooks.kinds.idxOf kind') :
    scan.Paired g s t (s.hooks.observe scan.unit s.position site)
      (t.hooks.observe scan.unit t.position site) where
  due event hevent := by
    obtain ⟨kind, observer, hwaits⟩ := HookRepository.exists_waits_of_mem_observe hevent
    refine ⟨due_of_mem_observe hsite hevent, ?_⟩
    exact h.mirrors.hooks.orderly.number_lt (HookRepository.mem_waiting.mpr hwaits)
  due' event hevent := by
    obtain ⟨kind, observer, hwaits⟩ := HookRepository.exists_waits_of_mem_observe hevent
    refine ⟨due_of_mem_observe hsite hevent, ?_⟩
    exact h.mirrors.hooks.orderly'.number_lt (HookRepository.mem_waiting.mpr hwaits)
  eq := by
    rw [h.mirrors.position_eq]
    exact h.mirrors.hooks.observe_eq horder

/-! ## Trying root rules -/

/-- The evaluation of the rule for a new root is the same in both states. -/
theorem Mirrors.attempt (h : scan.Mirrors f g s t) (n : NodeId) (rule : RuleId) :
    ∃ f' g', Continues f g s t f' g' (scan.attempt n s rule) (scan.attempt n t rule) ∧
      scan.Mirrors f' g' (scan.attempt n s rule) (scan.attempt n t rule) ∧
      Stands f' (scan.attempt n t rule).stores.size s.stores.size t.stores.size := by
  obtain ⟨f', hf, hab, hstands⟩ := h.stores.createRoot rule
  obtain ⟨hc, hm⟩ := h.withStores hf hab
  obtain ⟨f'', g'', hc', hm'⟩ := hm.plan.bind fun hc' hm' =>
    evaluateAt_mirrored (evaluate_alike scan) hm' (hc'.stores.stands hstands) .start n
  exact ⟨f'', g'', hc.trans hc', hm', hc'.stores.stands hstands⟩

/-- **Trying the rule in both states.** -/
theorem Alike.tryRoot (h : scan.Alike rule f g s t) (n : NodeId) :
    ∃ f' g', scan.Alike rule f' g' (scan.tryRoot n s rule) (scan.tryRoot n t rule) := by
  obtain ⟨f', g', hc, hm, hstands⟩ := h.mirrors.attempt n rule
  have hsound := h.sound.tryRoot n rule
  have hsound' := h.sound'.tryRoot n rule
  have hruns := attempt_runs h.sound.explained n rule
  have hruns' := attempt_runs h.sound'.explained n rule
  obtain ⟨top, htop⟩ := Arena.exists_store? hstands.lt
  have hdetections : (scan.attempt n s rule).stores.hasDetections s.stores.size =
      (scan.attempt n t rule).stores.hasDetections t.stores.size := by
    rw [← hstands.eq]
    exact hm.stores.embeds.hasDetections_eq hm.stores.linked hm.stores.linked' htop
  have hpending : (scan.attempt n s rule).hooks.hasPendingForRoot s.stores.size =
      (scan.attempt n t rule).hooks.hasPendingForRoot t.stores.size := by
    rw [← hstands.eq]
    exact hm.hooks.hasPendingForRoot_eq hm.stores.embeds.injective hstands.lt
  have hemitted : (scan.attempt n s rule).emitted = s.emitted := hruns.emitted_eq
  have hemitted' : (scan.attempt n t rule).emitted = t.emitted := hruns'.emitted_eq
  by_cases hkept : (scan.attempt n t rule).stores.hasDetections t.stores.size = true ∨
      (scan.attempt n t rule).hooks.hasPendingForRoot t.stores.size = true
  · have hkept' := hkept
    rw [← hdetections, ← hpending] at hkept'
    rw [tryRoot_of_kept hkept] at hsound' ⊢
    rw [tryRoot_of_kept hkept'] at hsound ⊢
    refine ⟨f', g', h.settle hc.stores hm hstands hemitted hemitted' hsound hsound' ?_⟩
    intro id store hid hnone
    obtain ⟨old, hold, hnone', hrule⟩ := hruns.root_of_new hid hnone
    rw [← hrule]
    rcases store?_plant_cases hold with ⟨rfl, rfl⟩ | hold
    · exact iff_of_true rfl (isImage_iff.mpr ⟨_, hstands⟩)
    · rw [hc.stores.isImage_eq (Arena.lt_size_of_store? hold)]
      exact h.roots hold hnone'
  · obtain ⟨hnone, hidle⟩ := not_or.mp hkept
    obtain ⟨htry', hhooks'⟩ := tryRoot_of_idle h.sound'.explained hnone hidle
    rw [← hdetections] at hnone
    rw [← hpending] at hidle
    obtain ⟨htry, hhooks⟩ := tryRoot_of_idle h.sound.explained hnone hidle
    rw [htry'] at hsound' ⊢
    rw [htry] at hsound ⊢
    refine ⟨f, g, hsound, hsound', ?_, ?_, h.roots⟩
    · exact h.mirrors.congr rfl hhooks rfl hhooks' hm.position_eq
    · simp only [hemitted, hemitted']
      exact h.emitted

/-- **Trying another rule in the larger state.** -/
theorem Alike.tryRoot_other (h : scan.Alike rule f g s t) (n : NodeId) {other : RuleId}
    (hne : other ≠ rule) : scan.Alike rule f g (scan.tryRoot n s other) t := by
  have hruns := attempt_runs h.sound.explained n other
  have hsound := h.sound.tryRoot n other
  have hnew : isImage f t.stores.size s.stores.size = false := by
    refine isImage_eq_false.mpr ?_
    intro y hy
    exact absurd hy.eq (Nat.ne_of_lt (h.mirrors.stores.embeds.lt_size hy.lt))
  have hplant : scan.Mirrors f g (plant s other) t :=
    h.mirrors.works (works_plant s other) (h.mirrors.stores.linked.createRoot other) hnew rfl rfl
  have hm := hruns.mirrors hplant hnew
  have hemitted : (scan.attempt n s other).emitted = s.emitted := hruns.emitted_eq
  by_cases hkept : (scan.attempt n s other).stores.hasDetections s.stores.size = true ∨
      (scan.attempt n s other).hooks.hasPendingForRoot s.stores.size = true
  · rw [tryRoot_of_kept hkept] at hsound ⊢
    refine h.settle_other hm hnew hemitted hsound fun {id store} hid hnone => ?_
    obtain ⟨old, hold, hnone', hrule⟩ := hruns.root_of_new hid hnone
    rw [← hrule]
    rcases store?_plant_cases hold with ⟨rfl, rfl⟩ | hold
    · rw [hnew]
      exact iff_of_false hne Bool.false_ne_true
    · exact h.roots hold hnone'
  · obtain ⟨hnone, hidle⟩ := not_or.mp hkept
    obtain ⟨htry, hhooks⟩ := tryRoot_of_idle h.sound.explained hnone hidle
    rw [htry] at hsound ⊢
    refine ⟨hsound, h.sound', ?_, ?_, h.roots⟩
    · exact h.mirrors.congr rfl hhooks rfl rfl hm.position_eq
    · simp only [hemitted]
      exact h.emitted

theorem Alike.foldl_tryRoot_other (n : NodeId) {rules : List RuleId} (hrules : rule ∉ rules)
    (h : scan.Alike rule f g s t) : scan.Alike rule f g (rules.foldl (scan.tryRoot n) s) t := by
  induction rules generalizing s with
  | nil => exact h
  | cons other rules ih =>
    obtain ⟨hne, hrest⟩ := not_or.mp (List.mem_cons.not.mp hrules)
    exact ih hrest (h.tryRoot_other n (Ne.symm hne))

/-- **States stay alike while all root rules are tried in the one, and the one in the other.** -/
theorem Alike.foldl_tryRoot (h : scan.Alike rule f g s t) (n : NodeId) {rules : List RuleId}
    (hmem : rule ∈ rules) (hnodup : rules.Nodup) :
    ∃ f' g', scan.Alike rule f' g' (rules.foldl (scan.tryRoot n) s) (scan.tryRoot n t rule) := by
  obtain ⟨before, after, rfl⟩ := List.append_of_mem hmem
  obtain ⟨-, hcons, hdisjoint⟩ := List.nodup_append.mp hnodup
  have hbefore : rule ∉ before := fun hin => hdisjoint rule hin rule List.mem_cons_self rfl
  obtain ⟨f', g', hours⟩ := (h.foldl_tryRoot_other n hbefore).tryRoot n
  rw [List.foldl_append, List.foldl_cons]
  exact ⟨f', g', hours.foldl_tryRoot_other n (List.nodup_cons.mp hcons).1⟩

end Scan
end CryptoUsage
