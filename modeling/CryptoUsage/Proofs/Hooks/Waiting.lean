import CryptoUsage.Proofs.Hooks.Registration

/-!
# Who waits for what

There is one hook for each target, and in a scan two hooks of different kinds never have the same
one.  So a repository is known from who waits on each kind of hook, in the order of registration
(`waiting`), together with the order of the kinds.  This file restates registering, removing and
looking up an observer in these terms, with no places in them: they are what two repositories can
be compared by whose hooks stand in different places.

## What is here

* `Orderly` is what makes the view exact: no kind is there twice, and numbers were given out
  before they are used.  It holds of the empty repository, and registering and removing keep it
  (`Enlists.orderly`, `Orderly.removeObserver`).
* Around one hook the repository is split, `before ++ hook :: after`, and `waiting_of_split` tells
  who waits on what then.  Everything else here is computed from it.
* `Enlists` says that one observer more waits on a kind of hook, under the next number.  A new
  hook does that (`enlists_new_hook`), and so does joining an old one (`enlists_join`); therefore
  registering does nothing or enlists (`register_waiting`).
* Looking up and removing by place and number are looking up and removing among those who wait on
  the kind at that place (`observer?_eq_lookup`, `waiting_removeObserver`).
-/

set_option autoImplicit false

namespace CryptoUsage

theorem HookKind.sameTarget_self (kind : HookKind) : kind.sameTarget kind = true := by
  cases kind <;> simp [sameTarget]

namespace HookRepository

variable {repository : HookRepository}

/-- Who waits on a kind of hook, in the order of registration. -/
def waiting (repository : HookRepository) (kind : HookKind) : List (ObserverId × Observer) :=
  (repository.hooks.filter fun hook => hook.kind = kind).flatMap (·.observers)

/-- No kind of hook is there twice, and the numbers of the observers were given out. -/
structure Orderly (repository : HookRepository) : Prop where
  kinds_nodup : repository.kinds.Nodup
  number_lt : ∀ {kind entry}, entry ∈ repository.waiting kind → entry.1 < repository.nextObserver

theorem orderly_empty : Orderly {} := ⟨List.nodup_nil, fun h => by simp [waiting] at h⟩

theorem mem_waiting {kind : HookKind} {number : ObserverId} {observer : Observer} :
    (number, observer) ∈ repository.waiting kind ↔ repository.Waits kind number observer := by
  simp only [waiting, List.mem_flatMap, List.mem_filter, decide_eq_true_eq, and_assoc, Waits]

theorem waiting_eq_nil {kind : HookKind} (h : kind ∉ repository.kinds) :
    repository.waiting kind = [] := by
  have hnone : (repository.hooks.filter fun hook => hook.kind = kind) = [] := by
    refine List.filter_eq_nil_iff.mpr fun hook hmem heq => h ?_
    exact List.mem_map.mpr ⟨hook, hmem, of_decide_eq_true heq⟩
  rw [waiting, hnone, List.flatMap_nil]

/-- Who waits on the hook between others of different kinds. -/
theorem waiting_of_split {before after : List Hook} (hook : Hook) (number : ObserverId)
    (h : (before.map (·.kind) ++ hook.kind :: after.map (·.kind)).Nodup) (kind : HookKind) :
    waiting { hooks := before ++ hook :: after, nextObserver := number } kind =
      if kind = hook.kind then hook.observers
      else waiting { hooks := before ++ after, nextObserver := number } kind := by
  obtain ⟨-, hcons, hdisjoint⟩ := List.nodup_append.mp h
  by_cases hkind : kind = hook.kind
  · subst hkind
    have hbefore : (before.filter fun other => other.kind = hook.kind) = [] := by
      refine List.filter_eq_nil_iff.mpr ?_
      intro other hmem heq
      exact hdisjoint _ (List.mem_map_of_mem hmem) _ List.mem_cons_self (of_decide_eq_true heq)
    have hafter : (after.filter fun other => other.kind = hook.kind) = [] := by
      refine List.filter_eq_nil_iff.mpr ?_
      intro other hmem heq
      refine (List.nodup_cons.mp hcons).1 ?_
      exact of_decide_eq_true heq ▸ List.mem_map_of_mem hmem
    simp [waiting, hbefore, hafter]
  · simp [waiting, hkind, Ne.symm hkind]

theorem waiting_of_mem (h : repository.kinds.Nodup) {hook : Hook} (hmem : hook ∈ repository.hooks) :
    repository.waiting hook.kind = hook.observers := by
  obtain ⟨before, after, heq⟩ := List.append_of_mem hmem
  obtain ⟨hooks, number⟩ := repository
  simp only at heq
  subst heq
  rw [waiting_of_split hook number (by simpa [kinds] using h), if_pos rfl]

/-! ## Registering -/

/-- The second repository is the first one with another observer, who waits on the kind of hook. -/
structure Enlists (kind : HookKind) (observer : Observer)
    (repository repository' : HookRepository) : Prop where
  nextObserver_eq : repository'.nextObserver = repository.nextObserver + 1
  kinds_nodup : repository'.kinds.Nodup
  mem_kinds : ∀ other, other ∈ repository'.kinds ↔ other ∈ repository.kinds ∨ other = kind
  waiting_eq : ∀ other, repository'.waiting other =
    repository.waiting other ++ if other = kind then [(repository.nextObserver, observer)] else []

variable {repository' : HookRepository} {kind : HookKind} {observer : Observer}

/-- Who waits then waited before, or is the new one. -/
theorem Enlists.waits_iff (h : Enlists kind observer repository repository') {other : HookKind}
    {number : ObserverId} {o : Observer} :
    repository'.Waits other number o ↔ repository.Waits other number o ∨
      other = kind ∧ number = repository.nextObserver ∧ o = observer := by
  rw [← mem_waiting, ← mem_waiting, h.waiting_eq, List.mem_append]
  by_cases hother : other = kind
  · simp [hother]
  · simp [hother]

theorem Enlists.orderly (h : Enlists kind observer repository repository')
    (horderly : repository.Orderly) : repository'.Orderly := by
  refine ⟨h.kinds_nodup, fun {other entry} hentry => ?_⟩
  obtain ⟨number, o⟩ := entry
  rw [h.nextObserver_eq]
  rcases h.waits_iff.mp (mem_waiting.mp hentry) with hold | ⟨-, rfl, -⟩
  · exact Nat.lt_succ_of_lt (horderly.number_lt (mem_waiting.mpr hold))
  · exact Nat.lt_succ_self _

/-- An observer is enlisted on a hook of its own, at the end, if there was none of the kind. -/
theorem enlists_new_hook (h : repository.kinds.Nodup) (hfresh : kind ∉ repository.kinds)
    (observer : Observer) :
    Enlists kind observer repository
      { hooks := repository.hooks ++ [{ kind, observers := [(repository.nextObserver, observer)] }]
        nextObserver := repository.nextObserver + 1 } where
  nextObserver_eq := rfl
  kinds_nodup := by
    simp only [kinds, List.map_append, List.map_cons, List.map_nil]
    refine List.nodup_append.mpr ⟨h, by simp, ?_⟩
    intro a ha b hb heq
    obtain rfl := List.mem_singleton.mp hb
    exact hfresh (heq ▸ ha)
  mem_kinds other := by simp [kinds]
  waiting_eq other := by
    by_cases hother : other = kind
    · subst hother
      simp [waiting]
    · simp [waiting, hother, Ne.symm hother]

/-- An observer is enlisted on the hook of the kind, if there is one. -/
theorem enlists_join (h : repository.kinds.Nodup) {before after : List Hook} {hook : Hook}
    (hhooks : repository.hooks = before ++ hook :: after) (observer : Observer) :
    Enlists hook.kind observer repository
      { hooks := before ++ hook.join repository.nextObserver observer :: after
        nextObserver := repository.nextObserver + 1 } where
  nextObserver_eq := rfl
  kinds_nodup := by simpa [kinds, hhooks] using h
  mem_kinds other := by
    simp only [kinds, hhooks, List.map_append, List.map_cons, Hook.kind_join]
    refine ⟨.inl, ?_⟩
    rintro (hmem | rfl)
    · exact hmem
    · exact List.mem_append_right _ List.mem_cons_self
  waiting_eq other := by
    have hnodup : (before.map (·.kind) ++ hook.kind :: after.map (·.kind)).Nodup := by
      simpa [kinds, hhooks] using h
    obtain ⟨hooks, next⟩ := repository
    simp only at hhooks
    subst hhooks
    have hjoin := waiting_of_split (hook.join next observer) (next + 1) hnodup other
    rw [hjoin, Hook.kind_join, waiting_of_split hook next hnodup]
    by_cases hother : other = hook.kind
    · rw [if_pos hother, if_pos hother, if_pos hother]
      rfl
    · rw [if_neg hother, if_neg hother, if_neg hother, List.append_nil]
      rfl

/-- Registering, as seen by those who wait: nothing happens if the same request waits already, and
otherwise the observer is enlisted. -/
theorem register_waiting (h : repository.kinds.Nodup) (observer : Observer)
    (htarget : ∀ other ∈ repository.kinds, other.sameTarget kind = true → other = kind) :
    ((repository.waiting kind).any (fun entry => entry.2.sameRequest observer) = true ∧
      (repository.register kind observer).1 = repository) ∨
    ((repository.waiting kind).any (fun entry => entry.2.sameRequest observer) = false ∧
      Enlists kind observer repository (repository.register kind observer).1) := by
  rcases register_cases repository kind observer with
    ⟨heq, hook, hmem, hsame, entry, hentry, hrequest⟩ | ⟨hnone, heq⟩ |
    ⟨before, hook, after, hhooks, -, hsame, hnew, heq⟩
  · obtain rfl := htarget hook.kind (List.mem_map_of_mem hmem) hsame
    rw [waiting_of_mem h hmem]
    exact .inl ⟨List.any_eq_true.mpr ⟨entry, hentry, hrequest⟩, by rw [heq]⟩
  · have hfresh : kind ∉ repository.kinds := by
      intro hmem
      obtain ⟨hook, hhook, rfl⟩ := List.mem_map.mp hmem
      exact Bool.false_ne_true ((hnone hook hhook).symm.trans (HookKind.sameTarget_self _))
    rw [waiting_eq_nil hfresh, heq]
    exact .inr ⟨rfl, enlists_new_hook h hfresh observer⟩
  · have hmem : hook ∈ repository.hooks := by simp [hhooks]
    obtain rfl := htarget hook.kind (List.mem_map_of_mem hmem) hsame
    rw [waiting_of_mem h hmem, heq]
    refine .inr ⟨List.any_eq_false.mpr ?_, enlists_join h hhooks observer⟩
    intro entry hentry
    exact Bool.eq_false_iff.mp (hnew entry hentry)

/-! ## Looking up and removing -/

theorem kinds_getElem? {place : Nat} {hook : Hook} (h : repository.hook? place = some hook) :
    repository.kinds[place]? = some hook.kind := by
  rw [kinds, List.getElem?_map, ← hook?, h, Option.map_some]

/-- Looking up an observer is looking it up among those who wait on the kind of the hook. -/
theorem observer?_eq_lookup (h : repository.kinds.Nodup) {place : Nat} {kind : HookKind}
    (hkind : repository.kinds[place]? = some kind) (number : ObserverId) :
    repository.observer? place number = (repository.waiting kind).lookup number := by
  rw [kinds, List.getElem?_map] at hkind
  obtain ⟨hook, hhook, rfl⟩ := Option.map_eq_some_iff.mp hkind
  rw [observer?, hook?, hhook, Option.bind_some, waiting_of_mem h (List.mem_of_getElem? hhook)]

/-- Removing an observer takes its number from the hook at the place and leaves the others. -/
theorem waiting_removeObserver (h : repository.kinds.Nodup) {place : Nat} {kind : HookKind}
    (hkind : repository.kinds[place]? = some kind) (number : ObserverId) (other : HookKind) :
    (repository.removeObserver place number).waiting other =
      (repository.waiting other).filter fun entry => other ≠ kind ∨ entry.1 ≠ number := by
  rw [kinds, List.getElem?_map] at hkind
  obtain ⟨hook, hhook, rfl⟩ := Option.map_eq_some_iff.mp hkind
  obtain ⟨before, after, hsplit, rfl⟩ := exists_of_hook? hhook
  obtain ⟨hooks, next⟩ := repository
  simp only at hsplit
  subst hsplit
  have hnodup : (before.map (·.kind) ++ hook.kind :: after.map (·.kind)).Nodup := by
    simpa [kinds] using h
  have hsplit (observers : List (ObserverId × Observer)) :=
    waiting_of_split { hook with observers } next hnodup other
  rw [removeObserver, modify_append_cons, hsplit, waiting_of_split hook next hnodup]
  by_cases hother : other = hook.kind
  · rw [if_pos hother, if_pos hother]
    refine List.filter_congr fun entry _ => Bool.eq_iff_iff.mpr ?_
    simp [hother]
  · rw [if_neg hother, if_neg hother]
    exact (List.filter_eq_self.mpr fun entry _ => by simp [hother]).symm

theorem Orderly.removeObserver (h : repository.Orderly) (place : Nat) (number : ObserverId) :
    (repository.removeObserver place number).Orderly := by
  refine ⟨by rw [kinds_removeObserver]; exact h.kinds_nodup, fun {kind entry} hentry => ?_⟩
  obtain ⟨n, o⟩ := entry
  exact h.number_lt (mem_waiting.mpr (mem_waiting.mp hentry).of_removeObserver)

end HookRepository
end CryptoUsage
