import CryptoUsage.Proofs.Hooks.Waiting
import Mathlib.Data.List.Nodup

/-!
# Hooks and requests are there once

Which hooks have the same target and which observers ask for the same are relations that ignore
part of what they compare: how the calls of a method are recognized, where values are moved to,
how often a request was passed on.  `HookKind.target` and `Observer.request` are what is compared,
so the two relations are equality of these (`HookKind.sameTarget_iff`,
`Observer.sameRequest_iff`).

A repository starts empty and is only ever changed by registering and removing.  A `Ledger` keeps,
next to the repository, the numbers that were issued and those of the observers that were
removed.  What every call keeps is `Ledger.Balanced`: targets are different, the requests on a
hook are different, and the numbers issued are those of the observers that wait together with
those of the observers that were removed.

## How it is kept

Registering gives the next number or none (`register_snd_cases`), and none exactly if the request
waits on a hook with the target (`register_eq_none_iff`, where it is used that targets are there
once).  The numbers that wait afterwards are those from before and the new one, up to order
(`numbers_register`).  Removing takes the number of the observer that was found, and nothing if
none was (`numbers_removeObserver`).  `Balanced.register` and `Balanced.remove` are put together
from these, `Balanced.calls` is the induction over a history, and `requests_wait_once` reads off
what it means.
-/

set_option autoImplicit false

namespace CryptoUsage

/-! ## What is compared -/

/-- What a hook waits for: the argument at a position of a method, the outcome of a method, or the
constants of an enum. -/
inductive HookTarget where
  | argument (method : NodeId) (index : Nat)
  | outcome (method : NodeId)
  | constants (enum : String)
deriving DecidableEq, Repr

/-- The target of a hook. -/
def HookKind.target : HookKind → HookTarget
  | .parameter method _ index => .argument method index
  | .result method _ => .outcome method
  | .enum name => .constants name

theorem HookKind.sameTarget_iff {a b : HookKind} :
    a.sameTarget b = true ↔ a.target = b.target := by
  cases a <;> cases b <;> simp [sameTarget, target]

/-- What a payload asks for: the values that a factory makes, or to follow rules. -/
inductive Demand where
  | values (index : Int) (factory : FactoryId)
  | rules (index : Int) (rules : List RuleId)
deriving DecidableEq, Repr

/-- What a payload asks for. -/
def HookPayload.demand : HookPayload → Demand
  | .value index id _ _ => .values index id
  | .follow index rules => .rules index rules

theorem HookPayload.sameAs_iff {a b : HookPayload} : a.sameAs b = true ↔ a.demand = b.demand := by
  cases a <;> cases b <;> simp [sameAs, demand]

/-- Who asks for what, after which selections. -/
structure Request where
  requester : StoreId
  selections : List String
  demand : Demand
deriving DecidableEq, Repr

/-- The request of an observer. -/
def Observer.request (observer : Observer) : Request :=
  { requester := observer.requester
    selections := observer.selections
    demand := observer.payload.demand }

theorem Observer.sameRequest_iff {a b : Observer} :
    a.sameRequest b = true ↔ a.request = b.request := by
  simp [sameRequest, request, HookPayload.sameAs_iff, and_assoc]

namespace HookRepository

variable {repository : HookRepository}

/-- The targets of the hooks, in order. -/
def targets (repository : HookRepository) : List HookTarget :=
  repository.hooks.map fun hook => hook.kind.target

theorem targets_eq (repository : HookRepository) :
    repository.targets = repository.kinds.map (·.target) := by
  simp [targets, kinds]

/-- The numbers of the observers that wait, hook by hook. -/
def numbers (repository : HookRepository) : List ObserverId :=
  repository.hooks.flatMap fun hook => hook.observers.map Prod.fst

theorem length_numbers (repository : HookRepository) :
    repository.numbers.length = repository.pending := by
  simp [numbers, pending, observers, List.length_flatMap]

/-! ## Registering -/

/-- The number that registering gives is the next one. -/
theorem register_snd_cases (repository : HookRepository) (kind : HookKind) (observer : Observer) :
    (repository.register kind observer = (repository, none)) ∨
      ((repository.register kind observer).2 = some repository.nextObserver ∧
        (repository.register kind observer).1.nextObserver = repository.nextObserver + 1) := by
  rcases register_cases repository kind observer with
    ⟨heq, -⟩ | ⟨-, heq⟩ | ⟨before, hook, after, -, -, -, -, heq⟩
  · exact .inl heq
  · exact .inr (by rw [heq]; exact ⟨rfl, rfl⟩)
  · exact .inr (by rw [heq]; exact ⟨rfl, rfl⟩)

/-- Registering fails exactly if the request waits already on a hook with the target. -/
theorem register_eq_none_iff (h : repository.targets.Nodup) (kind : HookKind)
    (observer : Observer) :
    (repository.register kind observer).2 = none ↔
      ∃ hook ∈ repository.hooks, hook.kind.target = kind.target ∧
        ∃ entry ∈ hook.observers, entry.2.request = observer.request := by
  rcases register_cases repository kind observer with
    ⟨heq, hook, hmem, htarget, entry, hentry, hrequest⟩ | ⟨hnone, heq⟩ |
    ⟨before, hook, after, hhooks, -, htarget, hnew, heq⟩ <;> rw [heq]
  · simp only [true_iff]
    exact ⟨hook, hmem, HookKind.sameTarget_iff.mp htarget, entry, hentry,
      Observer.sameRequest_iff.mp hrequest⟩
  · simp only [reduceCtorEq, false_iff]
    rintro ⟨hook, hmem, htarget, -⟩
    exact Bool.false_ne_true ((hnone hook hmem).symm.trans (HookKind.sameTarget_iff.mpr htarget))
  · simp only [reduceCtorEq, false_iff]
    rintro ⟨other, hmem, htarget', entry, hentry, hrequest⟩
    -- the hook with the target is the only one
    have hother : other = hook := by
      refine List.inj_on_of_nodup_map h hmem (by simp [hhooks]) ?_
      exact htarget'.trans (HookKind.sameTarget_iff.mp htarget).symm
    subst hother
    exact Bool.false_ne_true
      ((hnew entry hentry).symm.trans (Observer.sameRequest_iff.mpr hrequest))

theorem nodup_targets_register (h : repository.targets.Nodup) (kind : HookKind)
    (observer : Observer) : (repository.register kind observer).1.targets.Nodup := by
  rcases register_cases repository kind observer with
    ⟨heq, -⟩ | ⟨hnone, heq⟩ | ⟨before, hook, after, hhooks, -, -, -, heq⟩ <;> rw [heq]
  · exact h
  · simp only [targets, List.map_append, List.map_cons, List.map_nil]
    rw [← List.concat_eq_append, List.nodup_concat]
    refine ⟨fun hmem => ?_, h⟩
    obtain ⟨hook, hhook, htarget⟩ := List.mem_map.mp hmem
    exact Bool.false_ne_true ((hnone hook hhook).symm.trans (HookKind.sameTarget_iff.mpr htarget))
  · simpa [targets, hhooks] using h

/-- On each hook, every request waits once. -/
def Distinct (repository : HookRepository) : Prop :=
  ∀ hook ∈ repository.hooks, (hook.observers.map fun entry => entry.2.request).Nodup

theorem Distinct.register (h : repository.Distinct) (kind : HookKind) (observer : Observer) :
    (repository.register kind observer).1.Distinct := by
  rcases register_cases repository kind observer with
    ⟨heq, -⟩ | ⟨-, heq⟩ | ⟨before, hook, after, hhooks, -, -, hnew, heq⟩ <;> rw [heq]
  · exact h
  · simp only [Distinct, List.forall_mem_append, List.forall_mem_singleton]
    exact ⟨h, List.nodup_singleton _⟩
  · simp only [Distinct, hhooks, List.forall_mem_append, List.forall_mem_cons] at h ⊢
    obtain ⟨hbefore, hhook, hafter⟩ := h
    refine ⟨hbefore, ?_, hafter⟩
    simp only [Hook.join, List.map_append, List.map_cons, List.map_nil]
    rw [← List.concat_eq_append, List.nodup_concat]
    refine ⟨fun hmem => ?_, hhook⟩
    obtain ⟨entry, hentry, hrequest⟩ := List.mem_map.mp hmem
    exact Bool.false_ne_true
      ((hnew entry hentry).symm.trans (Observer.sameRequest_iff.mpr hrequest))

/-- Registering adds the number it gives, and no other. -/
theorem numbers_register (repository : HookRepository) (kind : HookKind) (observer : Observer) :
    (repository.register kind observer).1.numbers.Perm
      (repository.numbers ++ (repository.register kind observer).2.toList) := by
  rcases register_cases repository kind observer with
    ⟨heq, -⟩ | ⟨-, heq⟩ | ⟨before, hook, after, hhooks, -, -, -, heq⟩ <;> rw [heq]
  · simp
  · simp [numbers]
  · simp only [numbers, hhooks, Hook.join, List.flatMap_append, List.flatMap_cons, List.map_append,
      List.map_cons, List.map_nil, Option.toList_some, List.append_assoc]
    exact ((List.perm_append_comm).append_left _).append_left _

/-! ## Removing -/

theorem Distinct.removeObserver (h : repository.Distinct) (place : Nat) (number : ObserverId) :
    (repository.removeObserver place number).Distinct := by
  intro hook hmem
  obtain ⟨j, hj⟩ := List.mem_iff_getElem?.mp hmem
  rw [HookRepository.removeObserver, List.getElem?_modify] at hj
  obtain ⟨old, hold, rfl⟩ := Option.map_eq_some_iff.mp hj
  have hdistinct := h old (List.mem_of_getElem? hold)
  split
  · exact hdistinct.sublist ((List.filter_sublist ..).map _)
  · exact hdistinct

/-- Entries without those under a number, and the number if it was found, are all the numbers. -/
theorem numbers_filter_append {entries : List (ObserverId × Observer)}
    (h : (entries.map Prod.fst).Nodup) (number : ObserverId) :
    (((entries.filter fun o => o.1 != number).map Prod.fst) ++
      (entries.lookup number).toList.map fun _ => number).Perm (entries.map Prod.fst) := by
  induction entries with
  | nil => simp
  | cons entry entries ih =>
    obtain ⟨n, o⟩ := entry
    obtain ⟨hfirst, hrest⟩ := List.nodup_cons.mp h
    by_cases hn : n = number
    · subst hn
      have hall : (entries.filter fun o => o.1 != n) = entries := by
        refine List.filter_eq_self.mpr fun entry hentry => bne_iff_ne.mpr fun heq => hfirst ?_
        exact List.mem_map.mpr ⟨entry, hentry, heq⟩
      rw [List.filter_cons_of_neg (by simp), hall, List.lookup_cons_self]
      exact List.perm_append_comm
    · have hlookup : ((n, o) :: entries).lookup number = entries.lookup number := by
        rw [List.lookup_cons, beq_eq_false_iff_ne.mpr (Ne.symm hn)]
      rw [hlookup, List.filter_cons_of_pos (by simpa using hn)]
      exact (ih hrest).cons n

/-- Removing takes away the number of the observer that was waiting there, and no other. -/
theorem numbers_removeObserver (h : repository.numbers.Nodup) (place : Nat) (number : ObserverId) :
    ((repository.removeObserver place number).numbers ++
      (repository.observer? place number).toList.map fun _ => number).Perm
        repository.numbers := by
  cases hhook : repository.hook? place with
  | none =>
    have hsame : repository.removeObserver place number = repository := by
      rw [removeObserver, List.modify_eq_self (List.getElem?_eq_none_iff.mp hhook)]
    simp [hsame, observer?, hhook]
  | some hook =>
    obtain ⟨before, after, hhooks, rfl⟩ := exists_of_hook? hhook
    simp only [observer?, hhook, Option.bind_some]
    simp only [numbers, removeObserver, hhooks, modify_append_cons, List.flatMap_append,
      List.flatMap_cons] at h ⊢
    have hnodup := (List.nodup_append.mp (List.nodup_append.mp h).2.1).1
    refine .trans ?_ (((numbers_filter_append hnodup number).append_right _).append_left _)
    simp only [List.append_assoc]
    exact (List.perm_append_comm.append_left _).append_left _

/-! ## Histories -/

/-- A call that changes a repository. -/
inductive Call where
  | register (kind : HookKind) (observer : Observer)
  | remove (place : Nat) (number : ObserverId)

/-- A repository, with the numbers it issued, in order, and those of the observers that were removed
from it. -/
structure Ledger where
  repository : HookRepository := {}
  issued : List ObserverId := []
  removed : List ObserverId := []

namespace Ledger

/-- The ledger after a call.  Removing counts if the observer was waiting there. -/
def call (ledger : Ledger) : Call → Ledger
  | .register kind observer =>
    { ledger with
      repository := (ledger.repository.register kind observer).1
      issued := ledger.issued ++ (ledger.repository.register kind observer).2.toList }
  | .remove place number =>
    { ledger with
      repository := ledger.repository.removeObserver place number
      removed := ledger.removed ++
        (ledger.repository.observer? place number).toList.map fun _ => number }

/-- The ledger after some calls. -/
def calls (ledger : Ledger) (history : List Call) : Ledger := history.foldl call ledger

/-- What every call keeps. -/
structure Balanced (ledger : Ledger) : Prop where
  targets_nodup : ledger.repository.targets.Nodup
  distinct : ledger.repository.Distinct
  issued_sorted : ledger.issued.Pairwise (· < ·)
  issued_lt : ∀ number ∈ ledger.issued, number < ledger.repository.nextObserver
  /-- What was issued is what waits and what was removed. -/
  balance : (ledger.repository.numbers ++ ledger.removed).Perm ledger.issued

variable {ledger : Ledger}

theorem balanced_empty : Balanced {} := by
  refine ⟨.nil, fun _ hmem => ?_, .nil, fun _ hmem => ?_, .refl _⟩ <;> cases hmem

/-- No observer has the number of another one. -/
theorem Balanced.numbers_nodup (h : ledger.Balanced) : ledger.repository.numbers.Nodup :=
  have hissued : ledger.issued.Nodup := h.issued_sorted.imp Nat.ne_of_lt
  (List.nodup_append.mp (h.balance.nodup_iff.mpr hissued)).1

theorem Balanced.register (h : ledger.Balanced) (kind : HookKind) (observer : Observer) :
    (ledger.call (.register kind observer)).Balanced where
  targets_nodup := nodup_targets_register h.targets_nodup kind observer
  distinct := h.distinct.register kind observer
  issued_sorted := by
    rcases register_snd_cases ledger.repository kind observer with heq | ⟨heq, -⟩
    · simpa [call, heq] using h.issued_sorted
    · simp only [call, heq, Option.toList_some]
      refine List.pairwise_append.mpr ⟨h.issued_sorted, List.pairwise_singleton .., ?_⟩
      intro number hnumber next hnext
      obtain rfl := List.mem_singleton.mp hnext
      exact h.issued_lt number hnumber
  issued_lt number hnumber := by
    rcases register_snd_cases ledger.repository kind observer with heq | ⟨heq, hnext⟩
    · simp only [call, heq, Option.toList_none, List.append_nil] at hnumber ⊢
      exact h.issued_lt number hnumber
    · simp only [call, heq, hnext, Option.toList_some] at hnumber ⊢
      rcases List.mem_append.mp hnumber with hold | hnew
      · exact Nat.lt_succ_of_lt (h.issued_lt number hold)
      · obtain rfl := List.mem_singleton.mp hnew
        exact Nat.lt_succ_self _
  balance := by
    refine ((numbers_register ledger.repository kind observer).append_right _).trans ?_
    refine .trans ?_ (h.balance.append_right _)
    simp only [List.append_assoc]
    exact List.perm_append_comm.append_left _

theorem Balanced.remove (h : ledger.Balanced) (place : Nat) (number : ObserverId) :
    (ledger.call (.remove place number)).Balanced where
  targets_nodup := by
    rw [call, targets_eq, kinds_removeObserver, ← targets_eq]
    exact h.targets_nodup
  distinct := h.distinct.removeObserver place number
  issued_sorted := h.issued_sorted
  issued_lt := h.issued_lt
  balance := by
    refine .trans ?_ h.balance
    refine .trans ?_ ((numbers_removeObserver h.numbers_nodup place number).append_right _)
    simp only [call, List.append_assoc]
    exact List.perm_append_comm.append_left _

theorem Balanced.call (h : ledger.Balanced) : ∀ call : Call, (ledger.call call).Balanced
  | .register kind observer => h.register kind observer
  | .remove place number => h.remove place number

theorem Balanced.calls (h : ledger.Balanced) (history : List Call) :
    (ledger.calls history).Balanced := by
  induction history generalizing ledger with
  | nil => exact h
  | cons call history ih => exact ih (h.call call)

/-- Hooks stay in their places, whatever is called. -/
theorem kinds_prefix_calls (ledger : Ledger) (history : List Call) :
    ledger.repository.kinds <+: (ledger.calls history).repository.kinds := by
  induction history generalizing ledger with
  | nil => exact List.prefix_rfl
  | cons call history ih =>
    refine List.IsPrefix.trans ?_ (ih (ledger.call call))
    cases call with
    | register kind observer => exact kinds_prefix_register ..
    | remove place number =>
      simp only [Ledger.call, kinds_removeObserver]
      exact List.prefix_rfl

end Ledger

/-- **Targets, requests and numbers are there once**, whatever was called since the repository was
empty: no two hooks have the same target, no two observers of a hook the same request, and no two
observers the same number.  Numbers are issued in increasing order, a place keeps its hook, and what
waits is what was issued and not removed.  Registering fails exactly if the request waits already
for the target, and then changes nothing. -/
theorem requests_wait_once (history : List Call) :
    let ledger := Ledger.calls {} history
    let repository := ledger.repository
    (repository.hooks.map fun hook => hook.kind.target).Nodup ∧
      (∀ hook ∈ repository.hooks, (hook.observers.map fun entry => entry.2.request).Nodup) ∧
      (repository.hooks.flatMap fun hook => hook.observers.map Prod.fst).Nodup ∧
      ledger.issued.Pairwise (· < ·) ∧
      (∀ hook ∈ repository.hooks, ∀ entry ∈ hook.observers, entry.1 ∈ ledger.issued) ∧
      (∀ more, repository.kinds <+: (Ledger.calls {} (history ++ more)).repository.kinds) ∧
      repository.pending + ledger.removed.length = ledger.issued.length ∧
      ∀ kind observer,
        ((repository.register kind observer).2 = none ↔
          ∃ hook ∈ repository.hooks, hook.kind.target = kind.target ∧
            ∃ entry ∈ hook.observers, entry.2.request = observer.request) ∧
        ((repository.register kind observer).2 = none →
          (repository.register kind observer).1 = repository) := by
  intro ledger repository
  have h : ledger.Balanced := Ledger.balanced_empty.calls history
  refine ⟨h.targets_nodup, h.distinct, h.numbers_nodup, h.issued_sorted,
    fun hook hhook entry hentry => ?_, fun more => ?_, ?_,
    fun kind observer => ⟨?_, fun hnone => ?_⟩⟩
  · refine h.balance.subset (List.mem_append_left _ (List.mem_flatMap.mpr ⟨hook, hhook, ?_⟩))
    exact List.mem_map_of_mem hentry
  · rw [Ledger.calls, List.foldl_append]
    exact Ledger.kinds_prefix_calls ledger more
  · rw [← length_numbers, ← List.length_append]
    exact h.balance.length_eq
  · exact register_eq_none_iff h.targets_nodup kind observer
  · rcases register_snd_cases repository kind observer with heq | ⟨heq, -⟩
    · rw [heq]
    · rw [heq] at hnone
      cases hnone

/-- A request waits once, and gets another number if it is made again after it was removed. -/
example :
    let again := Call.register (.enum "E")
      { requester := 0, root := 0, payload := .follow 0 [1], registeredAt := 2 }
    (Ledger.calls {} [again, again, .remove 0 0, again]).issued = [0, 1] := by
  decide

end HookRepository
end CryptoUsage
