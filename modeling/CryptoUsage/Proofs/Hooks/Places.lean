import CryptoUsage.Proofs.Hooks.Waiting
import Mathlib.Data.List.Basic

/-!
# Places and numbers

An event names its observer by the place of a hook and the number that the observer was given when
it was registered.  Hooks keep their places and numbers are never given again, so the two name the
same observer for the rest of a scan.

## What is here

* `WaitsAt` follows observers by place and number, and `Numbered` is what holds of the numbers in
  every repository of a scan: they were given out, they increase on each hook, and each is in one
  place only.  Then an event finds the observer that it names (`Numbered.observer?_eq`), and that
  is the only one (`Numbered.observer_eq`).
* Registering adds at most the observer, under the next number (`register_waitsAt`, read off
  `register_cases`); removing takes away the one with the number at the place
  (`waitsAt_removeObserver`).
* `Evolves` is what can have happened between two repositories: observers were registered at a
  position of the traversal, and those in a list were removed.  It is transitive as long as nobody
  is removed who came on the way (`Evolves.trans`), which is how the events of one site are
  handled, as all of them are for observers from before.
* `mem_observe` and `observe_sorted` say which events there are at a site, namely for those who
  were registered earlier and on hooks that fire, and that they come by places and then by
  numbers.  So no observer is told twice.
-/

set_option autoImplicit false

namespace CryptoUsage
namespace HookRepository

variable {repository a b c : HookRepository} {place : Nat} {kind : HookKind} {number : ObserverId}
  {observer : Observer}

/-- An observer waits under its number on the hook of the given kind at a place. -/
def WaitsAt (repository : HookRepository) (place : Nat) (kind : HookKind) (number : ObserverId)
    (observer : Observer) : Prop :=
  ∃ hook, repository.hook? place = some hook ∧ hook.kind = kind ∧
    (number, observer) ∈ hook.observers

/-- The numbers of observers were given out in order, and each is in one place only. -/
structure Numbered (repository : HookRepository) : Prop where
  sorted : ∀ hook ∈ repository.hooks, hook.observers.Pairwise fun x y => x.1 < y.1
  number_lt : ∀ {place kind number observer}, repository.WaitsAt place kind number observer →
    number < repository.nextObserver
  place_eq : ∀ {place place' kind kind' number observer observer'},
    repository.WaitsAt place kind number observer →
    repository.WaitsAt place' kind' number observer' → place = place'

theorem numbered_empty : Numbered {} where
  sorted := by simp
  number_lt := by
    rintro place kind number observer ⟨hook, hhook, -⟩
    simp [hook?] at hhook
  place_eq := by
    rintro place place' kind kind' number observer observer' ⟨hook, hhook, -⟩
    simp [hook?] at hhook

theorem WaitsAt.kinds_getElem? (h : repository.WaitsAt place kind number observer) :
    repository.kinds[place]? = some kind := by
  obtain ⟨hook, hhook, rfl, -⟩ := h
  exact HookRepository.kinds_getElem? hhook

/-- Who waits on a hook of a kind waits on one at some place. -/
theorem waits_iff_exists_waitsAt :
    repository.Waits kind number observer ↔
      ∃ place, repository.WaitsAt place kind number observer := by
  constructor
  · rintro ⟨hook, hmem, hkind, hentry⟩
    obtain ⟨place, hplace⟩ := List.mem_iff_getElem?.mp hmem
    exact ⟨place, hook, hplace, hkind, hentry⟩
  · rintro ⟨place, hook, hplace, hkind, hentry⟩
    exact ⟨hook, List.mem_of_getElem? hplace, hkind, hentry⟩

/-- A list of numbered things in the order of their numbers is looked up exactly. -/
theorem lookup_eq_of_sorted {entries : List (ObserverId × Observer)}
    (hsorted : entries.Pairwise fun x y => x.1 < y.1) (hmem : (number, observer) ∈ entries) :
    entries.lookup number = some observer := by
  induction entries with
  | nil => cases hmem
  | cons entry entries ih =>
    obtain ⟨hfirst, hrest⟩ := List.pairwise_cons.mp hsorted
    obtain ⟨n, o⟩ := entry
    rcases List.mem_cons.mp hmem with heq | hmem
    · cases heq
      simp
    · have hne : (number == n) = false := beq_eq_false_iff_ne.mpr (Nat.ne_of_gt (hfirst _ hmem))
      rw [List.lookup_cons, hne]
      exact ih hrest hmem

/-- What an event names is found. -/
theorem Numbered.observer?_eq (h : repository.Numbered)
    (hwaits : repository.WaitsAt place kind number observer) :
    repository.observer? place number = some observer := by
  obtain ⟨hook, hhook, -, hmem⟩ := hwaits
  rw [observer?, hhook, Option.bind_some]
  exact lookup_eq_of_sorted (h.sorted hook (List.mem_of_getElem? hhook)) hmem

/-- Place and number name one observer. -/
theorem Numbered.observer_eq (h : repository.Numbered) {kind' : HookKind} {observer' : Observer}
    (hwaits : repository.WaitsAt place kind number observer)
    (hwaits' : repository.WaitsAt place kind' number observer') :
    kind = kind' ∧ observer = observer' := by
  constructor
  · exact Option.some.inj (hwaits.kinds_getElem?.symm.trans hwaits'.kinds_getElem?)
  · exact Option.some.inj ((h.observer?_eq hwaits).symm.trans (h.observer?_eq hwaits'))

/-! ## Registering -/

/-- Registering adds at most the observer, under the next number. -/
theorem register_waitsAt (repository : HookRepository) (kind : HookKind) (observer : Observer) :
    (repository.register kind observer).1 = repository ∨
      (repository.register kind observer).1.nextObserver = repository.nextObserver + 1 ∧
        ∃ place kind', ∀ p k n o, (repository.register kind observer).1.WaitsAt p k n o ↔
          repository.WaitsAt p k n o ∨
            p = place ∧ k = kind' ∧ n = repository.nextObserver ∧ o = observer := by
  rcases register_cases repository kind observer with
    ⟨heq, -⟩ | ⟨-, heq⟩ | ⟨before, hook, after, hhooks, -, -, -, heq⟩ <;> rw [heq]
  · exact .inl rfl
  · refine .inr ⟨rfl, repository.hooks.length, kind, fun p k n o => ?_⟩
    simp only [WaitsAt, hook?]
    by_cases hp : p < repository.hooks.length
    · rw [List.getElem?_append_left hp]
      simp [Nat.ne_of_lt hp]
    · have hold : repository.hooks[p]? = none := List.getElem?_eq_none (by omega)
      rw [List.getElem?_append_right (by omega), hold]
      by_cases hlast : p = repository.hooks.length
      · subst hlast
        simp [eq_comm]
      · have hnone : ([{ kind := kind, observers := [(repository.nextObserver, observer)] }] :
            List Hook)[p - repository.hooks.length]? = none :=
          List.getElem?_eq_none (by simp; omega)
        rw [hnone]
        simp [hlast]
  · refine .inr ⟨rfl, before.length, hook.kind, fun p k n o => ?_⟩
    simp only [WaitsAt, hook?, hhooks]
    rcases Nat.lt_trichotomy p before.length with hp | rfl | hp
    · rw [List.getElem?_append_left hp, List.getElem?_append_left hp]
      simp [Nat.ne_of_lt hp]
    · rw [List.getElem?_append_right (Nat.le_refl _), List.getElem?_append_right (Nat.le_refl _)]
      simp only [Nat.sub_self, List.getElem?_cons_zero, Option.some.injEq, true_and]
      constructor
      · rintro ⟨_, rfl, rfl, hmem⟩
        rcases List.mem_append.mp hmem with hmem | hmem
        · exact .inl ⟨hook, rfl, rfl, hmem⟩
        · cases List.mem_singleton.mp hmem
          exact .inr ⟨rfl, rfl, rfl⟩
      · rintro (⟨_, rfl, rfl, hmem⟩ | ⟨rfl, rfl, rfl⟩)
        · exact ⟨_, rfl, rfl, List.mem_append_left _ hmem⟩
        · exact ⟨_, rfl, rfl, List.mem_append_right _ (List.mem_singleton.mpr rfl)⟩
    · rw [List.getElem?_append_right (Nat.le_of_lt hp),
        List.getElem?_append_right (Nat.le_of_lt hp)]
      obtain ⟨j, hj⟩ : ∃ j, p - before.length = j + 1 := ⟨p - before.length - 1, by omega⟩
      rw [hj, List.getElem?_cons_succ, List.getElem?_cons_succ]
      simp [Nat.ne_of_gt hp]

theorem Numbered.register (h : repository.Numbered) (kind : HookKind) (observer : Observer) :
    (repository.register kind observer).1.Numbered := by
  rcases register_waitsAt repository kind observer with heq | ⟨hnext, place, kind', hwaits⟩
  · rwa [heq]
  refine ⟨?_, fun {p k n o} hn => ?_, fun {p p' k k' n o o'} hn hn' => ?_⟩
  · rcases register_cases repository kind observer with
      ⟨heq, -⟩ | ⟨-, heq⟩ | ⟨before, hook, after, hhooks, -, -, -, heq⟩ <;> rw [heq]
    · exact h.sorted
    · intro other hother
      rcases List.mem_append.mp hother with hold | hnew
      · exact h.sorted other hold
      · obtain rfl := List.mem_singleton.mp hnew
        exact List.pairwise_singleton ..
    · intro other hother
      have hold : ∀ x, x ∈ before ∨ x = hook ∨ x ∈ after → x ∈ repository.hooks := by
        intro x hx
        rwa [hhooks, List.mem_append, List.mem_cons]
      rcases List.mem_append.mp hother with hother | hother
      · exact h.sorted other (hold other (.inl hother))
      rcases List.mem_cons.mp hother with rfl | hother
      · refine List.pairwise_append.mpr ⟨h.sorted hook (hold hook (.inr (.inl rfl))),
          List.pairwise_singleton .., fun x hx y hy => ?_⟩
        obtain rfl := List.mem_singleton.mp hy
        have hwaits' : repository.WaitsAt before.length hook.kind x.1 x.2 :=
          ⟨hook, by simp [hook?, hhooks], rfl, hx⟩
        exact h.number_lt hwaits'
      · exact h.sorted other (hold other (.inr (.inr hother)))
  · rw [hnext]
    rcases (hwaits p k n o).mp hn with hn | ⟨-, -, rfl, -⟩
    · exact Nat.lt_succ_of_lt (h.number_lt hn)
    · exact Nat.lt_succ_self _
  · rcases (hwaits p k n o).mp hn with hn | ⟨rfl, -, hn, -⟩ <;>
      rcases (hwaits p' k' n o').mp hn' with hn' | ⟨rfl, -, hn', -⟩
    · exact h.place_eq hn hn'
    · exact absurd hn' (Nat.ne_of_lt (h.number_lt hn))
    · exact absurd hn (Nat.ne_of_lt (h.number_lt hn'))
    · rfl

/-! ## Removing -/

/-- Removing takes away the observer with the number at the place, and no other. -/
theorem waitsAt_removeObserver {p : Nat} {k : HookKind} {n : ObserverId} {o : Observer} :
    (repository.removeObserver place number).WaitsAt p k n o ↔
      repository.WaitsAt p k n o ∧ (p, n) ≠ (place, number) := by
  simp only [WaitsAt, hook?, removeObserver, List.getElem?_modify]
  by_cases hp : place = p
  · subst hp
    simp only [if_true, Option.map_eq_map, Option.map_eq_some_iff, ne_eq, Prod.mk.injEq, true_and]
    constructor
    · rintro ⟨_, ⟨hook, hhook, rfl⟩, hkind, hmem⟩
      obtain ⟨hmem, hne⟩ := List.mem_filter.mp hmem
      exact ⟨⟨hook, hhook, hkind, hmem⟩, by simpa using hne⟩
    · rintro ⟨⟨hook, hhook, hkind, hmem⟩, hne⟩
      exact ⟨_, ⟨hook, hhook, rfl⟩, hkind, List.mem_filter.mpr ⟨hmem, by simpa using hne⟩⟩
  · simp [hp, Ne.symm hp]

theorem Numbered.removeObserver (h : repository.Numbered) (place : Nat) (number : ObserverId) :
    (repository.removeObserver place number).Numbered where
  sorted hook hmem := by
    obtain ⟨j, hj⟩ := List.mem_iff_getElem?.mp hmem
    rw [HookRepository.removeObserver, List.getElem?_modify] at hj
    obtain ⟨old, hold, rfl⟩ := Option.map_eq_some_iff.mp hj
    have hsorted := h.sorted old (List.mem_of_getElem? hold)
    split
    · exact hsorted.sublist (List.filter_sublist ..)
    · exact hsorted
  number_lt hn := h.number_lt (waitsAt_removeObserver.mp hn).1
  place_eq hn hn' :=
    h.place_eq (waitsAt_removeObserver.mp hn).1 (waitsAt_removeObserver.mp hn').1

/-! ## What can happen to a repository -/

/-- From one repository to another, observers were registered at a position of the traversal, and
those named by `left` were removed. -/
structure Evolves (position : Nat) (left : List (Nat × ObserverId)) (a b : HookRepository) :
    Prop where
  next_le : a.nextObserver ≤ b.nextObserver
  /-- Who had a number before goes on waiting unless removed. -/
  old : ∀ {place kind number observer}, number < a.nextObserver →
    (b.WaitsAt place kind number observer ↔
      a.WaitsAt place kind number observer ∧ (place, number) ∉ left)
  /-- Who got a number since waits. -/
  given : ∀ {number}, a.nextObserver ≤ number → number < b.nextObserver →
    ∃ place kind observer, b.WaitsAt place kind number observer
  /-- Who got a number since was registered at the position. -/
  new : ∀ {place kind number observer}, a.nextObserver ≤ number →
    b.WaitsAt place kind number observer → observer.registeredAt = position

variable {position : Nat} {left left' : List (Nat × ObserverId)}

theorem Evolves.refl (position : Nat) (h : a.Numbered) : Evolves position [] a a where
  next_le := Nat.le_refl _
  old := by simp
  given hle hlt := absurd hlt (Nat.not_lt_of_le hle)
  new hle hwaits := absurd (h.number_lt hwaits) (Nat.not_lt_of_le hle)

/-- Changes follow one another, as long as nobody is removed who was registered on the way. -/
theorem Evolves.trans (hab : Evolves position left a b) (hbc : Evolves position left' b c)
    (hleft : ∀ entry ∈ left', entry.2 < a.nextObserver) : Evolves position (left ++ left') a c where
  next_le := Nat.le_trans hab.next_le hbc.next_le
  old {place kind number observer} hlt := by
    rw [hbc.old (Nat.lt_of_lt_of_le hlt hab.next_le), hab.old hlt, List.mem_append, not_or,
      and_assoc]
  given {number} hle hlt := by
    by_cases hb : number < b.nextObserver
    · obtain ⟨place, kind, observer, hwaits⟩ := hab.given hle hb
      refine ⟨place, kind, observer, (hbc.old hb).mpr ⟨hwaits, fun hmem => ?_⟩⟩
      exact absurd (hleft _ hmem) (Nat.not_lt_of_le hle)
    · exact hbc.given (Nat.le_of_not_lt hb) hlt
  new {place kind number observer} hle hwaits := by
    by_cases hb : number < b.nextObserver
    · exact hab.new hle ((hbc.old hb).mp hwaits).1
    · exact hbc.new (Nat.le_of_not_lt hb) hwaits

theorem evolves_register (h : a.Numbered) (kind : HookKind) (observer : Observer) :
    Evolves observer.registeredAt [] a (a.register kind observer).1 := by
  rcases register_waitsAt a kind observer with heq | ⟨hnext, place, kind', hwaits⟩
  · rw [heq]
    exact .refl _ h
  refine ⟨hnext ▸ Nat.le_succ _, fun {p k n o} hlt => ?_, fun {n} hle hlt => ?_,
    fun {p k n o} hle hn => ?_⟩
  · rw [hwaits]
    constructor
    · rintro (hn | ⟨-, -, rfl, -⟩)
      · exact ⟨hn, List.not_mem_nil⟩
      · exact absurd hlt (Nat.lt_irrefl _)
    · exact fun hn => .inl hn.1
  · rw [hnext] at hlt
    obtain rfl : n = a.nextObserver := Nat.le_antisymm (Nat.le_of_lt_succ hlt) hle
    exact ⟨place, kind', observer, (hwaits ..).mpr (.inr ⟨rfl, rfl, rfl, rfl⟩)⟩
  · rcases (hwaits p k n o).mp hn with hn | ⟨-, -, -, rfl⟩
    · exact absurd (h.number_lt hn) (Nat.not_lt_of_le hle)
    · rfl

theorem evolves_removeObserver (position : Nat) (h : a.Numbered) (place : Nat)
    (number : ObserverId) :
    Evolves position [(place, number)] a (a.removeObserver place number) where
  next_le := Nat.le_refl _
  old _ := by rw [waitsAt_removeObserver, List.mem_singleton]
  given hle hlt := absurd hlt (Nat.not_lt_of_le hle)
  new hle hwaits :=
    absurd (h.number_lt (waitsAt_removeObserver.mp hwaits).1) (Nat.not_lt_of_le hle)

/-! ## Events -/

/-- **The events at a site** are for those who were registered at an earlier position, on hooks that
fire there. -/
theorem mem_observe {u : CompilationUnit} {position : Nat} {site : Site} {event : HookEvent} :
    event ∈ repository.observe u position site ↔ event.trigger = site ∧ ∃ kind observer,
      repository.WaitsAt event.hook kind event.observer observer ∧
        observer.registeredAt < position ∧ kind.fires u site = true := by
  obtain ⟨place, number, trigger⟩ := event
  simp only [observe, List.mem_flatMap]
  constructor
  · rintro ⟨⟨hook, place'⟩, hmem, hevent⟩
    have hhook := List.mem_zipIdx_iff_getElem?.mp hmem
    simp only at hevent
    split at hevent
    · next hfires =>
      obtain ⟨⟨number', observer⟩, hentry, heq⟩ := List.mem_map.mp hevent
      obtain ⟨hentry, hbefore⟩ := List.mem_filter.mp hentry
      cases heq
      exact ⟨rfl, hook.kind, observer, ⟨hook, hhook, rfl, hentry⟩, of_decide_eq_true hbefore,
        (Bool.and_eq_true_iff.mp hfires).2⟩
    · cases hevent
  · rintro ⟨rfl, kind, observer, ⟨hook, hhook, rfl, hentry⟩, hbefore, hfires⟩
    refine ⟨(hook, place), List.mem_zipIdx_iff_getElem?.mpr hhook, ?_⟩
    have hne : hook.observers.isEmpty = false := by
      rw [List.isEmpty_eq_false_iff]
      exact List.ne_nil_of_mem hentry
    simp only [hne, hfires, Bool.not_false, Bool.and_self, if_true]
    exact List.mem_map.mpr ⟨(number, observer),
      List.mem_filter.mpr ⟨hentry, decide_eq_true hbefore⟩, rfl⟩

/-- One event comes before another one: by the places of their hooks, and then by the numbers of
their observers. -/
def Precedes (event event' : HookEvent) : Prop :=
  event.hook < event'.hook ∨ event.hook = event'.hook ∧ event.observer < event'.observer

/-- **The events at a site are in order**, and so each is there once. -/
theorem observe_sorted (h : repository.Numbered) (u : CompilationUnit) (position : Nat)
    (site : Site) : (repository.observe u position site).Pairwise Precedes := by
  rw [observe, List.pairwise_flatMap]
  constructor
  · rintro ⟨hook, place⟩ hmem
    have hhook := List.mem_of_getElem? (List.mem_zipIdx_iff_getElem?.mp hmem)
    simp only
    split
    · rw [eventsOf, List.pairwise_map]
      have hsorted := (h.sorted hook hhook).sublist
        (List.filter_sublist (p := fun o => decide (o.2.registeredAt < position)))
      exact hsorted.imp fun hlt => .inr ⟨rfl, hlt⟩
    · exact List.Pairwise.nil
  · have hplaces : repository.hooks.zipIdx.Pairwise fun x y => x.2 < y.2 := by
      rw [← List.pairwise_map (f := Prod.snd) (R := (· < ·)), List.zipIdx_map_snd]
      exact List.pairwise_lt_range'
    refine hplaces.imp ?_
    rintro ⟨hook, place⟩ ⟨hook', place'⟩ hlt event hevent event' hevent'
    simp only at hevent hevent'
    split at hevent
    · split at hevent'
      · obtain ⟨_, -, rfl⟩ := List.mem_map.mp hevent
        obtain ⟨_, -, rfl⟩ := List.mem_map.mp hevent'
        exact .inl hlt
      · cases hevent'
    · cases hevent

end HookRepository
end CryptoUsage
