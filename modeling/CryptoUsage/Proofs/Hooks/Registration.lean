import CryptoUsage.Hooks.Repository

/-!
# Registering and removing observers

`register_cases` says everything that registering can do: nothing, if the same request waits
already; a new hook at the end, if none has the target; and one more observer at the end of a hook
otherwise.  It is the only place where registering is opened.  What is waiting is then read
through one view, `Waits`: which observer, under which number, waits on which kind of hook.

## What is here

* Registering, through that view.  Who waited goes on waiting (`Waits.register`), and who waits
  waited before or is the new one (`Waits.of_register`).  The new one may be on a hook whose kind
  is not the one asked for but has the same target, for that hook is joined.  Hooks stay in their
  places (`kinds_register`).
* Removing.  Hooks stay, and nobody else comes in (`Waits.of_removeObserver`).
* Looking up.  What is found under a number waits (`waits_of_lookup`), and something is pending
  for a root exactly if an observer names it (`hasPendingForRoot_iff`).
* `Works root`, the counterpart of the relation between arenas: from one repository to the next
  only observers of one root were registered.  So nothing else became pending, and the observers
  of other roots wait as before.
-/

set_option autoImplicit false

namespace CryptoUsage

/-- The hook with one more observer. -/
def Hook.join (hook : Hook) (number : ObserverId) (observer : Observer) : Hook :=
  { hook with observers := hook.observers ++ [(number, observer)] }

@[simp] theorem Hook.kind_join (hook : Hook) (number : ObserverId) (observer : Observer) :
    (hook.join number observer).kind = hook.kind := rfl

namespace HookRepository

variable {repository : HookRepository}

/-- An observer waits, under a number, on a hook of the given kind. -/
def Waits (repository : HookRepository) (kind : HookKind) (number : ObserverId)
    (observer : Observer) : Prop :=
  ∃ hook ∈ repository.hooks, hook.kind = kind ∧ (number, observer) ∈ hook.observers

/-- The kinds of the hooks, in order. -/
def kinds (repository : HookRepository) : List HookKind := repository.hooks.map (·.kind)

theorem Waits.kind_mem {kind : HookKind} {number : ObserverId} {observer : Observer}
    (h : repository.Waits kind number observer) : kind ∈ repository.kinds := by
  obtain ⟨hook, hmem, rfl, -⟩ := h
  exact List.mem_map_of_mem hmem

/-! ## Registering -/

/-- A list with its element at a place changed, around that place. -/
theorem modify_append_cons {α : Type} (before : List α) (x : α) (after : List α) (f : α → α) :
    (before ++ x :: after).modify before.length f = before ++ f x :: after := by
  induction before with
  | nil => rfl
  | cons y before ih => rw [List.cons_append, List.length_cons, List.modify_succ_cons, ih]; rfl

/-- The hook at a place stands between those before and behind it. -/
theorem exists_of_hook? {place : Nat} {hook : Hook} (h : repository.hook? place = some hook) :
    ∃ before after, repository.hooks = before ++ hook :: after ∧ before.length = place := by
  obtain ⟨hlt, rfl⟩ := List.getElem?_eq_some_iff.mp h
  refine ⟨repository.hooks.take place, repository.hooks.drop (place + 1), ?_,
    List.length_take_of_le (by omega)⟩
  rw [← List.drop_eq_getElem_cons hlt, List.take_append_drop]

/-- The hook that is found for a target is the first one that has it. -/
theorem exists_of_placeOf? {kind : HookKind} {place : Nat}
    (h : repository.placeOf? kind = some place) :
    ∃ before hook after, repository.hooks = before ++ hook :: after ∧ before.length = place ∧
      (∀ other ∈ before, other.kind.sameTarget kind = false) ∧
      hook.kind.sameTarget kind = true := by
  obtain ⟨hlt, htarget, hfirst⟩ := List.findIdx?_eq_some_iff_getElem.mp h
  refine ⟨repository.hooks.take place, repository.hooks[place], repository.hooks.drop (place + 1),
    ?_, List.length_take_of_le (by omega), ?_, htarget⟩
  · rw [← List.drop_eq_getElem_cons hlt, List.take_append_drop]
  · intro other hother
    obtain ⟨j, hj, rfl⟩ := List.mem_take_iff_getElem.mp hother
    exact Bool.eq_false_iff.mpr (hfirst j (Nat.lt_of_lt_of_le hj (Nat.min_le_left ..)))

/-- Everything that registering an observer can do. -/
theorem register_cases (repository : HookRepository) (kind : HookKind) (observer : Observer) :
    (repository.register kind observer = (repository, none) ∧
      ∃ hook ∈ repository.hooks, hook.kind.sameTarget kind = true ∧
        ∃ entry ∈ hook.observers, entry.2.sameRequest observer = true) ∨
    ((∀ hook ∈ repository.hooks, hook.kind.sameTarget kind = false) ∧
      repository.register kind observer =
        ({ hooks := repository.hooks ++
             [{ kind, observers := [(repository.nextObserver, observer)] }]
           nextObserver := repository.nextObserver + 1 }, some repository.nextObserver)) ∨
    (∃ before hook after, repository.hooks = before ++ hook :: after ∧
      (∀ other ∈ before, other.kind.sameTarget kind = false) ∧ hook.kind.sameTarget kind = true ∧
      (∀ entry ∈ hook.observers, entry.2.sameRequest observer = false) ∧
      repository.register kind observer =
        ({ hooks := before ++ hook.join repository.nextObserver observer :: after
           nextObserver := repository.nextObserver + 1 }, some repository.nextObserver)) := by
  cases hplace : repository.placeOf? kind with
  | none =>
    refine .inr (.inl ⟨?_, by simp only [register, hplace]⟩)
    exact List.findIdx?_eq_none_iff.mp hplace
  | some place =>
    obtain ⟨before, hook, after, hhooks, rfl, hbefore, htarget⟩ := exists_of_placeOf? hplace
    have hat : repository.hook? before.length = some hook := by
      rw [hook?, hhooks, List.getElem?_append_right (Nat.le_refl _), Nat.sub_self,
        List.getElem?_cons_zero]
    by_cases hsame : (hook.observers.any fun o => o.2.sameRequest observer) = true
    · obtain ⟨entry, hentry, hreq⟩ := List.any_eq_true.mp hsame
      refine .inl ⟨?_, hook, by simp [hhooks], htarget, entry, hentry, hreq⟩
      simp only [register, hplace, hat, Option.any_some, hsame, if_true]
    · refine .inr (.inr ⟨before, hook, after, hhooks, hbefore, htarget, ?_, ?_⟩)
      · intro entry hentry
        refine Bool.eq_false_iff.mpr fun hreq => hsame ?_
        exact List.any_eq_true.mpr ⟨entry, hentry, hreq⟩
      · simp only [register, hplace, hat, Option.any_some, hsame, if_false, Bool.false_eq_true]
        rw [hhooks, modify_append_cons]
        rfl

/-- Who waits after registering waited before, or is the new observer on a hook for its target. -/
theorem Waits.of_register {kind kind' : HookKind} {observer observer' : Observer}
    {number : ObserverId}
    (h : (repository.register kind observer).1.Waits kind' number observer') :
    repository.Waits kind' number observer' ∨
      (observer' = observer ∧ number = repository.nextObserver ∧
        (kind' = kind ∨ kind'.sameTarget kind = true)) := by
  obtain ⟨hook, hmem, rfl, hentry⟩ := h
  rcases register_cases repository kind observer with
    ⟨heq, -⟩ | ⟨-, heq⟩ | ⟨before, hook', after, hhooks, -, htarget, -, heq⟩ <;> rw [heq] at hmem
  · exact .inl ⟨hook, hmem, rfl, hentry⟩
  · rcases List.mem_append.mp hmem with hmem | hmem
    · exact .inl ⟨hook, hmem, rfl, hentry⟩
    · obtain rfl := List.mem_singleton.mp hmem
      obtain ⟨rfl, rfl⟩ := Prod.mk.inj (List.mem_singleton.mp hentry)
      exact .inr ⟨rfl, rfl, .inl rfl⟩
  · have hold : ∀ other, other ∈ before ∨ other ∈ after → other ∈ repository.hooks := by
      intro other hother
      rw [hhooks, List.mem_append, List.mem_cons]
      rcases hother with hother | hother
      · exact .inl hother
      · exact .inr (.inr hother)
    rcases List.mem_append.mp hmem with hmem | hmem
    · exact .inl ⟨hook, hold hook (.inl hmem), rfl, hentry⟩
    · rcases List.mem_cons.mp hmem with rfl | hmem
      · rcases List.mem_append.mp hentry with hentry | hentry
        · exact .inl ⟨hook', by simp [hhooks], rfl, hentry⟩
        · obtain ⟨rfl, rfl⟩ := Prod.mk.inj (List.mem_singleton.mp hentry)
          exact .inr ⟨rfl, rfl, .inr htarget⟩
      · exact .inl ⟨hook, hold hook (.inr hmem), rfl, hentry⟩

/-- Who waits goes on waiting while others register. -/
theorem Waits.register {kind kind' : HookKind} {observer' : Observer} {number : ObserverId}
    (h : repository.Waits kind' number observer') (observer : Observer) :
    (repository.register kind observer).1.Waits kind' number observer' := by
  obtain ⟨hook, hmem, rfl, hentry⟩ := h
  rcases register_cases repository kind observer with
    ⟨heq, -⟩ | ⟨-, heq⟩ | ⟨before, hook', after, hhooks, -, -, -, heq⟩ <;> rw [heq]
  · exact ⟨hook, hmem, rfl, hentry⟩
  · exact ⟨hook, List.mem_append_left _ hmem, rfl, hentry⟩
  · rw [hhooks] at hmem
    rcases List.mem_append.mp hmem with hmem | hmem
    · exact ⟨hook, List.mem_append_left _ hmem, rfl, hentry⟩
    · rcases List.mem_cons.mp hmem with rfl | hmem
      · exact ⟨hook.join repository.nextObserver observer, by simp, rfl,
          List.mem_append_left _ hentry⟩
      · exact ⟨hook, by simp [hmem], rfl, hentry⟩

/-- Hooks stay in their places, and at most the wanted one is added, at the end. -/
theorem kinds_register (repository : HookRepository) (kind : HookKind) (observer : Observer) :
    (repository.register kind observer).1.kinds = repository.kinds ∨
      (repository.register kind observer).1.kinds = repository.kinds ++ [kind] := by
  rcases register_cases repository kind observer with
    ⟨heq, -⟩ | ⟨-, heq⟩ | ⟨before, hook, after, hhooks, -, -, -, heq⟩ <;> rw [heq]
  · exact .inl rfl
  · exact .inr (by simp [kinds])
  · exact .inl (by simp [kinds, hhooks])

theorem kinds_prefix_register (repository : HookRepository) (kind : HookKind)
    (observer : Observer) : repository.kinds <+: (repository.register kind observer).1.kinds := by
  rcases kinds_register repository kind observer with h | h
  · exact ⟨[], by rw [h, List.append_nil]⟩
  · exact ⟨[kind], h.symm⟩

/-! ## Removing -/

@[simp] theorem kinds_removeObserver (repository : HookRepository) (place : Nat)
    (number : ObserverId) : (repository.removeObserver place number).kinds = repository.kinds := by
  refine List.ext_getElem? ?_
  intro j
  simp only [kinds, removeObserver, List.getElem?_map, List.getElem?_modify]
  cases repository.hooks[j]? with
  | none => rfl
  | some hook => simp only [Option.map_some, Option.map_eq_map]; split <;> rfl

/-- Who waits after another one was removed waited before. -/
theorem Waits.of_removeObserver {place : Nat} {removed number : ObserverId} {kind : HookKind}
    {observer : Observer}
    (h : (repository.removeObserver place removed).Waits kind number observer) :
    repository.Waits kind number observer := by
  obtain ⟨hook, hmem, rfl, hentry⟩ := h
  obtain ⟨j, hj⟩ := List.mem_iff_getElem?.mp hmem
  rw [removeObserver, List.getElem?_modify] at hj
  obtain ⟨old, hold, rfl⟩ := Option.map_eq_some_iff.mp hj
  have hold' := List.mem_iff_getElem?.mpr ⟨j, hold⟩
  by_cases hp : place = j
  · simp only [hp, if_true] at hentry ⊢
    exact ⟨old, hold', rfl, (List.mem_filter.mp hentry).1⟩
  · simp only [hp, if_false] at hentry ⊢
    exact ⟨old, hold', rfl, hentry⟩

/-! ## Looking up -/

theorem mem_of_lookup {number : ObserverId} {observer : Observer}
    {entries : List (ObserverId × Observer)} (h : entries.lookup number = some observer) :
    (number, observer) ∈ entries := by
  obtain ⟨before, after, heq, -⟩ := List.lookup_eq_some_iff.mp h
  simp [heq]

theorem waits_of_lookup {place : Nat} {number : ObserverId} {hook : Hook} {observer : Observer}
    (hhook : repository.hook? place = some hook)
    (hobserver : repository.observer? place number = some observer) :
    repository.Waits hook.kind number observer := by
  rw [observer?, hhook, Option.bind_some] at hobserver
  exact ⟨hook, List.mem_of_getElem? hhook, rfl, mem_of_lookup hobserver⟩

/-- Something waits on behalf of a root exactly if an observer names the root. -/
theorem hasPendingForRoot_iff {root : Nat} :
    repository.hasPendingForRoot root = true ↔
      ∃ kind number observer, repository.Waits kind number observer ∧ observer.root = root := by
  simp only [hasPendingForRoot, observers, List.any_eq_true, List.mem_flatMap, List.mem_map,
    beq_iff_eq]
  constructor
  · rintro ⟨observer, ⟨hook, hmem, ⟨number, o⟩, hentry, rfl⟩, hroot⟩
    exact ⟨hook.kind, number, o, ⟨hook, hmem, rfl, hentry⟩, hroot⟩
  · rintro ⟨kind, number, observer, ⟨hook, hmem, -, hentry⟩, hroot⟩
    exact ⟨observer, ⟨hook, hmem, (number, observer), hentry, rfl⟩, hroot⟩

/-! ## Work on behalf of one root -/

/-- Work on behalf of a root leads from one repository to another. -/
structure Works (root : Nat) (a b : HookRepository) : Prop where
  /-- Hooks stay in their places. -/
  kinds : a.kinds <+: b.kinds
  /-- Who waits goes on waiting. -/
  keeps : ∀ ⦃kind number observer⦄, a.Waits kind number observer → b.Waits kind number observer
  /-- Who is new waits on behalf of the root. -/
  frame : ∀ ⦃kind number observer⦄, b.Waits kind number observer →
    a.Waits kind number observer ∨ observer.root = root
  /-- Work that leaves a trace leaves an observer. -/
  trace : b = a ∨ b.hasPendingForRoot root = true

theorem Works.refl (root : Nat) (a : HookRepository) : Works root a a :=
  ⟨List.prefix_rfl, fun _ _ _ h => h, fun _ _ _ h => .inl h, .inl rfl⟩

theorem Works.trans {root : Nat} {a b c : HookRepository} (hab : Works root a b)
    (hbc : Works root b c) : Works root a c where
  kinds := hab.kinds.trans hbc.kinds
  keeps _ _ _ h := hbc.keeps (hab.keeps h)
  frame kind number observer h := by
    rcases hbc.frame h with h | hroot
    · exact hab.frame h
    · exact .inr hroot
  trace := by
    rcases hbc.trace with rfl | hpending
    · exact hab.trace
    · exact .inr hpending

theorem works_register {root : Nat} (repository : HookRepository) (kind : HookKind)
    {observer : Observer} (hroot : observer.root = root) :
    Works root repository (repository.register kind observer).1 where
  kinds := kinds_prefix_register repository kind observer
  keeps _ _ _ h := h.register observer
  frame _ _ _ h := by
    rcases h.of_register with h | ⟨rfl, -⟩
    · exact .inl h
    · exact .inr hroot
  trace := by
    rcases register_cases repository kind observer with
      ⟨heq, -⟩ | ⟨-, heq⟩ | ⟨before, hook, after, -, -, -, -, heq⟩ <;> rw [heq]
    · exact .inl rfl
    · refine .inr (hasPendingForRoot_iff.mpr ⟨kind, repository.nextObserver, observer, ?_, hroot⟩)
      exact ⟨⟨kind, [(repository.nextObserver, observer)]⟩, by simp, rfl, by simp⟩
    · refine .inr (hasPendingForRoot_iff.mpr
        ⟨hook.kind, repository.nextObserver, observer, ?_, hroot⟩)
      exact ⟨hook.join repository.nextObserver observer, by simp, rfl, by simp [Hook.join]⟩

end HookRepository
end CryptoUsage
