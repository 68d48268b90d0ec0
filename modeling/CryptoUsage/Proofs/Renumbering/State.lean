import CryptoUsage.Proofs.Renumbering.Resolution
import CryptoUsage.Scan.State
import Mathlib.Order.Monotone.Basic

/-!
# Stores and hooks under other numbers

Stores remember sites and the nodes that fired hooks, and hooks know methods; all else in them is
places of stores and of rules, which are no nodes.  So what is done to stores and hooks is the same
under other numbers, and whether a store has a site, or whether two hooks wait for the same, is too
because `ρ` is injective.

Observers say at which position of the traversal they were registered, and only sites at later
positions count for them.  Where a tree has more nodes, positions are others as well.  They go
through a function `π` of their own, of which is asked that it keeps the order; this is used in one
place, where a hook fires (`observe_renumber`).

Findings hold locations and no nodes, so a snapshot of a store is equal to the one taken under other
numbers (`project_renumber`).
-/

set_option autoImplicit false

namespace CryptoUsage

open Function

variable {ρ : NodeId → NodeId} {π : Nat → Nat} {u u' : CompilationUnit}

/-! ## Hooks -/

/-- A hook's target under other numbers. -/
def HookKind.renumber (ρ : NodeId → NodeId) : HookKind → HookKind
  | parameter method matcher index => parameter (ρ method) matcher index
  | result method matcher => result (ρ method) matcher
  | enum name => enum name

/-- An observer with another position at which it was registered. -/
def Observer.reposition (π : Nat → Nat) (observer : Observer) : Observer :=
  { observer with registeredAt := π observer.registeredAt }

/-- A hook under other numbers, with its observers at other positions. -/
def Hook.renumber (ρ : NodeId → NodeId) (π : Nat → Nat) (hook : Hook) : Hook where
  kind := hook.kind.renumber ρ
  observers := hook.observers.map (Prod.map id (Observer.reposition π))

/-- Hooks under other numbers. -/
def HookRepository.renumber (ρ : NodeId → NodeId) (π : Nat → Nat) (repository : HookRepository) :
    HookRepository :=
  { repository with hooks := repository.hooks.map (Hook.renumber ρ π) }

/-- An event under other numbers. -/
def HookEvent.renumber (ρ : NodeId → NodeId) (event : HookEvent) : HookEvent :=
  { event with trigger := event.trigger.renumber ρ }

@[simp] theorem HookKind.isOneShot_renumber (kind : HookKind) :
    (kind.renumber ρ).isOneShot = kind.isOneShot := by cases kind <;> rfl

theorem HookKind.sameTarget_renumber (hρ : Injective ρ) (kind kind' : HookKind) :
    (kind.renumber ρ).sameTarget (kind'.renumber ρ) = kind.sameTarget kind' := by
  have hsame (m m' : NodeId) : (ρ m == ρ m') = (m == m') := by
    rw [Bool.eq_iff_iff, beq_iff_eq, beq_iff_eq, hρ.eq_iff]
  cases kind <;> cases kind' <;> simp [renumber, sameTarget, hsame]

theorem CompilationUnit.Renumbers.fires (h : u'.Renumbers ρ u) (kind : HookKind) (site : Site) :
    (kind.renumber ρ).fires u (site.renumber ρ) = kind.fires u' site := by
  cases kind with
  | enum name => exact h.selectsEnum_renumber name site
  | _ => exact h.matches_renumber ..

theorem Observer.sameRequest_reposition (observer observer' : Observer) :
    (observer.reposition π).sameRequest (observer'.reposition π) =
      observer.sameRequest observer' := rfl

namespace HookRepository

variable (repository : HookRepository)

@[simp] theorem hook?_renumber (place : Nat) :
    (repository.renumber ρ π).hook? place = (repository.hook? place).map (Hook.renumber ρ π) :=
  List.getElem?_map ..

@[simp] theorem placeOf?_renumber (hρ : Injective ρ) (kind : HookKind) :
    (repository.renumber ρ π).placeOf? (kind.renumber ρ) = repository.placeOf? kind := by
  simp [placeOf?, renumber, List.findIdx?_map, Function.comp_def, Hook.renumber,
    HookKind.sameTarget_renumber hρ]

@[simp] theorem observer?_renumber (place : Nat) (number : ObserverId) :
    (repository.renumber ρ π).observer? place number =
      (repository.observer? place number).map (Observer.reposition π) := by
  have hlookup (observers : List (ObserverId × Observer)) :
      (observers.map (Prod.map id (Observer.reposition π))).lookup number =
        (observers.lookup number).map (Observer.reposition π) := by
    induction observers with
    | nil => rfl
    | cons entry observers ih =>
      obtain ⟨i, observer⟩ := entry
      simp only [List.map_cons, Prod.map_apply, id_eq, List.lookup_cons, ih]
      cases number == i <;> rfl
  cases hhook : repository.hook? place <;> simp [observer?, hhook, Hook.renumber, hlookup]

theorem modify_map_renumber (hooks : List Hook) (place : Nat) {change change' : Hook → Hook}
    (hchange : ∀ hook, change (hook.renumber ρ π) = (change' hook).renumber ρ π) :
    (hooks.map (Hook.renumber ρ π)).modify place change =
      (hooks.modify place change').map (Hook.renumber ρ π) := by
  refine List.ext_getElem? fun i => ?_
  simp only [List.getElem?_modify, List.getElem?_map]
  cases hooks[i]? with
  | none => rfl
  | some hook => by_cases hi : place = i <;> simp [hi, hchange]

@[simp] theorem removeObserver_renumber (place : Nat) (number : ObserverId) :
    (repository.renumber ρ π).removeObserver place number =
      (repository.removeObserver place number).renumber ρ π := by
  simp only [removeObserver, renumber]
  rw [modify_map_renumber]
  intro hook
  simp [Hook.renumber, List.filter_map, Function.comp_def]

theorem register_renumber (hρ : Injective ρ) (kind : HookKind) (observer : Observer) :
    (repository.renumber ρ π).register (kind.renumber ρ) (observer.reposition π) =
      ((repository.register kind observer).1.renumber ρ π,
        (repository.register kind observer).2) := by
  rw [register, register, placeOf?_renumber repository hρ]
  cases repository.placeOf? kind with
  | none => simp [renumber, Hook.renumber]
  | some place =>
    have hsame : (((repository.renumber ρ π).hook? place).any fun hook =>
        hook.observers.any fun o => o.2.sameRequest (observer.reposition π)) =
          (repository.hook? place).any fun hook =>
            hook.observers.any fun o => o.2.sameRequest observer := by
      cases hhook : repository.hook? place <;>
        simp [hhook, Hook.renumber, List.any_map, Function.comp_def,
          Observer.sameRequest_reposition]
    simp only [hsame]
    split
    · rfl
    · simp only [renumber, Prod.mk.injEq, HookRepository.mk.injEq, and_true]
      exact modify_map_renumber _ _ fun hook => by simp [Hook.renumber]

theorem observers_renumber :
    (repository.renumber ρ π).observers = repository.observers.map (Observer.reposition π) := by
  simp [observers, renumber, List.flatMap_map, List.map_flatMap, Hook.renumber,
    Function.comp_def]

@[simp] theorem hasPendingForRoot_renumber (root : StoreId) :
    (repository.renumber ρ π).hasPendingForRoot root = repository.hasPendingForRoot root := by
  simp [hasPendingForRoot, observers_renumber, List.any_map, Function.comp_def,
    Observer.reposition]

@[simp] theorem pending_renumber :
    (repository.renumber ρ π).pending = repository.pending := by
  simp [pending, observers_renumber]

/-- The same observers are told of a site, since positions stay in order. -/
theorem observe_renumber (h : u'.Renumbers ρ u) (hπ : StrictMono π) (position : Nat) (site : Site) :
    (repository.renumber ρ π).observe u (π position) (site.renumber ρ) =
      (repository.observe u' position site).map (HookEvent.renumber ρ) := by
  have hevents (place : Nat) (hook : Hook) :
      eventsOf (π position) (site.renumber ρ) place (hook.renumber ρ π) =
        (eventsOf position site place hook).map (HookEvent.renumber ρ) := by
    simp [eventsOf, Hook.renumber, List.filter_map, Function.comp_def, Observer.reposition,
      HookEvent.renumber, hπ.lt_iff_lt]
  simp only [observe, renumber, List.zipIdx_map, List.flatMap_map, List.map_flatMap]
  congr 1
  funext entry
  obtain ⟨hook, place⟩ := entry
  have hempty : (hook.renumber ρ π).observers.isEmpty = hook.observers.isEmpty := by
    simp [Hook.renumber]
  have hfires : (hook.renumber ρ π).kind.fires u (site.renumber ρ) = hook.kind.fires u' site :=
    h.fires hook.kind site
  simp only [Prod.map_apply, id_eq, hempty, hfires, hevents]
  split <;> simp

end HookRepository

/-! ## Stores -/

/-- A store under other numbers. -/
def Store.renumber (ρ : NodeId → NodeId) (store : Store) : Store :=
  { store with
    site := store.site.map (Site.renumber ρ)
    hook := store.hook.map fun origin => { origin with trigger := ρ origin.trigger } }

/-- All the stores under other numbers. -/
def Arena.renumber (ρ : NodeId → NodeId) (arena : Arena) : Arena where
  stores := arena.stores.map (Store.renumber ρ)

namespace Arena

variable (arena : Arena)

@[simp] theorem size_renumber : (arena.renumber ρ).size = arena.size := Array.size_map ..

@[simp] theorem store?_renumber (id : StoreId) :
    (arena.renumber ρ).store? id = (arena.store? id).map (Store.renumber ρ) :=
  Array.getElem?_map ..

/-- Changes that are the same under other numbers change the stores in the same way. -/
theorem modify_renumber (id : StoreId) {change change' : Store → Store}
    (hchange : ∀ store, change (store.renumber ρ) = (change' store).renumber ρ) :
    (arena.renumber ρ).modify id change = (arena.modify id change').renumber ρ := by
  simp only [modify, renumber, Arena.mk.injEq]
  refine Array.ext_getElem? fun i => ?_
  simp only [Array.getElem?_modify, Array.getElem?_map, Option.map_map, Function.comp_def]
  cases arena.stores[i]? with
  | none => simp
  | some store => by_cases hi : id = i <;> simp [hi, hchange]

theorem push_renumber (make make' : StoreId → Store)
    (hmake : ∀ id, make id = (make' id).renumber ρ) :
    (arena.renumber ρ).push make = ((arena.push make').1.renumber ρ, (arena.push make').2) := by
  simp [push, renumber, hmake, size]

theorem createRoot_renumber (rule : RuleId) :
    (arena.renumber ρ).createRoot rule =
      ((arena.createRoot rule).1.renumber ρ, (arena.createRoot rule).2) :=
  push_renumber arena _ _ fun _ => rfl

theorem createChild_renumber (parent : StoreId) (index : Int) (rule : RuleId)
    (hook : Option HookOrigin) :
    (arena.renumber ρ).createChild parent index rule
        (hook.map fun origin => { origin with trigger := ρ origin.trigger }) =
      ((arena.createChild parent index rule hook).1.renumber ρ,
        (arena.createChild parent index rule hook).2) := by
  have habove {α : Type} (read : Store → α)
      (hread : ∀ store, read (store.renumber ρ) = read store) :
      ((arena.renumber ρ).store? parent).map read = (arena.store? parent).map read := by
    rw [store?_renumber, Option.map_map]
    exact congrArg (Option.map · _) (funext hread)
  have hpush := push_renumber (ρ := ρ) arena _ (fun id =>
    { id
      level := ((arena.store? parent).map (·.level)).getD 0 + 1
      rule
      parent := some (parent, index)
      root := ((arena.store? parent).map (·.root)).getD id
      hook }) fun _ => rfl
  simp only [createChild, habove (·.level) fun _ => rfl, habove (·.root) fun _ => rfl]
  simp only [Store.renumber, Option.map_none] at hpush
  simp only [hpush, Prod.mk.injEq, and_true]
  exact modify_renumber _ _ fun _ => rfl

theorem createSibling_renumber (store : Store) :
    (arena.renumber ρ).createSibling (store.renumber ρ) =
      ((arena.createSibling store).1.renumber ρ, (arena.createSibling store).2) := by
  have hparent : (store.renumber ρ).parent = store.parent := rfl
  rw [createSibling, createSibling, hparent]
  cases store.parent with
  | none => exact createRoot_renumber arena store.rule
  | some place => exact createChild_renumber arena place.1 place.2 store.rule store.hook

theorem claim_renumber (hρ : Injective ρ) (id : StoreId) (site : Site) :
    (arena.renumber ρ).claim id (site.renumber ρ) =
      ((arena.claim id site).1.renumber ρ, (arena.claim id site).2) := by
  rw [claim, claim, store?_renumber]
  cases arena.store? id with
  | none => rfl
  | some store =>
    have hall :
        (store.renumber ρ).site.all (· == site.renumber ρ) = store.site.all (· == site) := by
      cases hsite : store.site with
      | none => simp [Store.renumber, hsite]
      | some other =>
        simp only [Store.renumber, hsite, Option.map_some, Option.all_some]
        rw [Bool.eq_iff_iff, beq_iff_eq, beq_iff_eq, (Site.renumber_injective hρ).eq_iff]
    simp only [Option.map_some, hall, createSibling_renumber]
    split <;>
    · simp only [Prod.mk.injEq, and_true]
      exact modify_renumber _ _ fun _ => rfl

@[simp] theorem ancestry_renumber (id : StoreId) :
    (arena.renumber ρ).ancestry id = arena.ancestry id := by
  rw [ancestry, ancestry]
  generalize id + 1 = steps
  induction steps generalizing id with
  | zero => rfl
  | succ steps ih =>
    rw [ancestryWithin, ancestryWithin, store?_renumber]
    cases hstore : arena.store? id with
    | none => rfl
    | some store =>
      simp only [Option.map_some, Store.renumber, List.cons.injEq, true_and]
      cases store.parent with
      | none => rfl
      | some place => exact ih place.1

theorem isClaimedOnPath_renumber (hρ : Injective ρ) (id : StoreId) (rule : RuleId) (site : Site) :
    (arena.renumber ρ).isClaimedOnPath id rule (site.renumber ρ) =
      arena.isClaimedOnPath id rule site := by
  have hclaimed (id : StoreId) : (arena.renumber ρ).hasClaimed rule (site.renumber ρ) id =
      arena.hasClaimed rule site id := by
    cases hstore : arena.store? id with
    | none => simp [hasClaimed, hstore]
    | some store =>
      have hsite : (store.site.map (Site.renumber ρ) == some (site.renumber ρ)) =
          (store.site == some site) := by
        rw [Bool.eq_iff_iff, beq_iff_eq, beq_iff_eq, ← Option.map_some,
          (Option.map_injective (Site.renumber_injective hρ)).eq_iff]
      simp [hasClaimed, hstore, Store.renumber, hsite]
  rw [isClaimedOnPath, ancestry_renumber, funext hclaimed, isClaimedOnPath]

@[simp] theorem hookRoot_renumber (id : StoreId) :
    (arena.renumber ρ).hookRoot id = arena.hookRoot id := by
  have hroot (id : StoreId) : (((arena.renumber ρ).store? id).bind (·.hook)).map (·.hookRoot) =
      ((arena.store? id).bind (·.hook)).map (·.hookRoot) := by
    cases hstore : arena.store? id with
    | none => simp [hstore]
    | some store => cases hhook : store.hook <;> simp [hstore, Store.renumber, hhook]
  simp only [hookRoot, ancestry_renumber]
  rw [funext hroot]

theorem receiveMethod_renumber (id : StoreId) (site : Site) (action : Option DetectedValue) :
    (arena.renumber ρ).receiveMethod id (site.renumber ρ) action =
      (arena.receiveMethod id site action).renumber ρ :=
  modify_renumber _ _ fun _ => rfl

theorem pushValue_renumber (id : StoreId) (index : Int) (value : DetectedValue) :
    (arena.renumber ρ).pushValue id index value = (arena.pushValue id index value).renumber ρ :=
  modify_renumber _ _ fun _ => rfl

theorem receiveValue_renumber (id : StoreId) (index : Int) (moveUnder : Option Int)
    (value : DetectedValue) :
    (arena.renumber ρ).receiveValue id index moveUnder value =
      ((arena.receiveValue id index moveUnder value).1.renumber ρ,
        (arena.receiveValue id index moveUnder value).2) := by
  cases moveUnder with
  | none => exact congrArg (·, id) (pushValue_renumber ..)
  | some target =>
    rw [receiveValue, receiveValue, store?_renumber]
    cases arena.store? id with
    | none => rfl
    | some store =>
      have hchild := createChild_renumber (ρ := ρ) arena id target store.rule none
      rw [Option.map_none] at hchild
      simp only [Option.map_some, Store.renumber, hchild, pushValue_renumber]

@[simp] theorem hasDetections_renumber (id : StoreId) :
    (arena.renumber ρ).hasDetections id = arena.hasDetections id := by
  rw [hasDetections, hasDetections, size_renumber]
  generalize arena.size = height
  induction height generalizing id with
  | zero =>
    rw [hasDetectionsWithin, hasDetectionsWithin, store?_renumber]
    cases arena.store? id <;> rfl
  | succ height ih =>
    rw [hasDetectionsWithin, hasDetectionsWithin, store?_renumber]
    cases arena.store? id with
    | none => rfl
    | some store =>
      have hbelow := funext ih
      simp [Store.renumber, Store.isDetection, hbelow]

theorem truncate_renumber (mark : Nat) :
    (arena.renumber ρ).truncate mark = (arena.truncate mark).renumber ρ := by
  rw [truncate, truncate, size_renumber]
  split
  · rfl
  · simp only [renumber, Array.take_eq_extract, Array.map_extract, Array.map_map]
    rfl

/-- **A snapshot is the same under other numbers.** -/
@[simp] theorem project_renumber (id : StoreId) :
    (arena.renumber ρ).project id = arena.project id := by
  rw [project, project, size_renumber]
  generalize arena.size = height
  induction height generalizing id with
  | zero =>
    simp only [projectWithin, store?_renumber]
    cases arena.store? id <;> rfl
  | succ height ih =>
    have hbelow : projectWithin (arena.renumber ρ) height = projectWithin arena height :=
      funext ih
    simp only [projectWithin, store?_renumber, hbelow]
    cases arena.store? id <;> rfl

end Arena

/-! ## States -/

/-- A state under other numbers and at another position. -/
def ScanState.renumber (ρ : NodeId → NodeId) (π : Nat → Nat) (s : ScanState) : ScanState :=
  { s with
    stores := s.stores.renumber ρ
    hooks := s.hooks.renumber ρ π
    position := π s.position }

namespace ScanState

variable (s : ScanState)

@[simp] theorem stores_renumber : (s.renumber ρ π).stores = s.stores.renumber ρ := rfl

@[simp] theorem hooks_renumber : (s.renumber ρ π).hooks = s.hooks.renumber ρ π := rfl

@[simp] theorem position_renumber : (s.renumber ρ π).position = π s.position := rfl

@[simp] theorem emitted_renumber : (s.renumber ρ π).emitted = s.emitted := rfl

@[simp] theorem reported_renumber : (s.renumber ρ π).reported = s.reported := rfl

@[simp] theorem plan_renumber : (s.renumber ρ π).plan = s.plan.renumber ρ π := rfl

@[simp] theorem start_renumber : (s.renumber ρ π).start = s.start.renumber ρ π := rfl

@[simp] theorem withStores_renumber (stores : Arena) :
    (s.renumber ρ π).withStores (stores.renumber ρ) = (s.withStores stores).renumber ρ π := by
  simp [withStores, renumber]

@[simp] theorem rootOf_renumber (id : StoreId) : (s.renumber ρ π).rootOf id = s.rootOf id := by
  rw [rootOf, rootOf, stores_renumber, Arena.store?_renumber]
  cases s.stores.store? id <;> rfl

theorem claim_renumber (hρ : Injective ρ) (id : StoreId) (site : Site) :
    (s.renumber ρ π).claim id (site.renumber ρ) =
      ((s.claim id site).1.renumber ρ π, (s.claim id site).2) := by
  simp only [claim, stores_renumber, Arena.claim_renumber _ hρ, withStores_renumber]
  split <;> rfl

end ScanState

end CryptoUsage
