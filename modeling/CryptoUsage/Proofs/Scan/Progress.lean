import CryptoUsage.Proofs.Scan.Discarding

/-!
# Progress balances

Whoever follows a scan is told of each rule evaluation twice, when it is planned and when it
starts.  What is told comes in pairs, one pair for each store that is made, whichever way it is
made (`ScanState.Accounts`); and a root that is thrown away takes neither a pair nor the count of
its stores with it.  So at no moment have more evaluations started than were planned
(`ScanState.count_started_le_count_planned`), and between two nodes both numbers are that of the
stores ever made.

## How it goes

* Pairs.  What was told so far has the latest first.  After a number of complete evaluations it is
  `told` of that number, and what was told up to some moment is a suffix of it.  A suffix of
  alternating entries has at most as many starts as plans, by induction on the number.
* Accounts.  That work for a root tells one pair per store is shown where that work is taken
  apart, for the sake of roots that are discarded; here it is carried through looks at roots,
  which tell nothing, to the events (`handle_accounts`, `tryRoot_accounts`).  Trying a root counts
  the new root itself, also if it is thrown away at once.
* The scan.  What every event accounts for, a whole scan does (`after_accounts`), and what is told
  up to a node is told up to the end (`after_accounts_run`), so that every moment of the scan is a
  suffix.

`progress_balances` states both; the program below it has three evaluations of which no store is
left.
-/

set_option autoImplicit false

namespace CryptoUsage

namespace ScanState

variable {s s' : ScanState}

/-- What is told of a number of evaluations, each planned and then started, the latest first. -/
abbrev told (count : Nat) : List Progress :=
  (List.replicate count [Progress.started, .planned]).flatten

theorem count_planned_told (count : Nat) : (told count).count .planned = count := by
  simp [List.count_flatten]

theorem count_started_told (count : Nat) : (told count).count .started = count := by
  simp [List.count_flatten]

/-- At no moment on the way have more evaluations started than were planned.  The latest comes
first, so what was told up to a moment is a suffix. -/
theorem count_started_le_count_planned {count : Nat} {sofar : List Progress}
    (h : sofar <:+ told count) : sofar.count .started ≤ sofar.count .planned := by
  induction count with
  | zero =>
    obtain rfl := List.suffix_nil.mp h
    exact Nat.le_refl _
  | succ count ih =>
    have hcons : told (count + 1) = .started :: .planned :: told count := rfl
    rw [hcons, List.suffix_cons_iff, List.suffix_cons_iff] at h
    rcases h with rfl | rfl | h
    · rw [← hcons, count_started_told, count_planned_told]
    · -- the last evaluation is planned and has not started yet
      rw [List.count_cons_of_ne (by decide), List.count_cons_self, count_started_told,
        count_planned_told]
      exact Nat.le_succ count
    · exact ih h

/-- Nothing that was told is taken back. -/
theorem Accounts.progress_suffix (h : s.Accounts s') : s.progress <:+ s'.progress := by
  obtain ⟨count, -, hprogress⟩ := h
  exact hprogress ▸ List.suffix_append ..

theorem Accounts.congr {s'' : ScanState} (h : s.Accounts s') (hcreated : s''.created = s'.created)
    (hprogress : s''.progress = s'.progress) : s.Accounts s'' := by
  obtain ⟨count, hc, hp⟩ := h
  exact ⟨count, hcreated.trans hc, hprogress.trans hp⟩

theorem Accounts.foldl {α : Type} {f : ScanState → α → ScanState}
    (h : ∀ s a, Accounts s (f s a)) (l : List α) (s : ScanState) : Accounts s (l.foldl f s) := by
  induction l generalizing s with
  | nil => exact .refl s
  | cons a l ih => exact (h s a).trans (ih (f s a))

/-- From the start on, one evaluation was planned and started for every store made. -/
theorem Accounts.progress_eq (h : Accounts {} s) : s.progress = told s.created := by
  obtain ⟨count, hcreated, hprogress⟩ := h
  rw [hprogress, hcreated, Nat.zero_add, List.append_nil]

end ScanState

namespace Scan

/-! ## What the events account for -/

@[simp] theorem created_emitIfDetected (scan : Scan) (s : ScanState) (root : StoreId) :
    (scan.emitIfDetected s root).created = s.created := by
  rcases emitIfDetected_cases scan s root with ⟨h, -⟩ | ⟨-, -, h⟩ <;> rw [h]

@[simp] theorem progress_emitIfDetected (scan : Scan) (s : ScanState) (root : StoreId) :
    (scan.emitIfDetected s root).progress = s.progress := by
  rcases emitIfDetected_cases scan s root with ⟨h, -⟩ | ⟨-, -, h⟩ <;> rw [h]

theorem handle_accounts (scan : Scan) (s : ScanState) (event : HookEvent) :
    s.Accounts (scan.handle s event) := by
  rw [handle]
  split
  · next hook observer _ _ =>
    have hacts : scan.Acts 0 s (scan.deliver hook.kind observer event.trigger s).1 :=
      deliver_acts hook.kind observer event.trigger (Nat.zero_le _)
    refine hacts.accounts.congr ?_ ?_
    · rw [created_emitIfDetected]
      split <;> rfl
    · rw [progress_emitIfDetected]
      split <;> rfl
  · exact .refl s

/-- A root that is thrown away was still made, and its evaluation was planned and started. -/
theorem tryRoot_accounts (scan : Scan) (n : NodeId) (s : ScanState) (rule : RuleId) :
    s.Accounts (scan.tryRoot n s rule) := by
  have hattempt := attempt_accounts scan n s rule
  by_cases hkept : (scan.attempt n s rule).stores.hasDetections s.stores.size = true ∨
      (scan.attempt n s rule).hooks.hasPendingForRoot s.stores.size = true
  · rw [tryRoot_of_kept hkept]
    exact hattempt.congr (created_emitIfDetected ..) (progress_emitIfDetected ..)
  · obtain ⟨hnone, hidle⟩ := not_or.mp hkept
    rw [tryRoot_eq, if_neg hnone, if_neg hidle]
    exact hattempt.congr rfl rfl

theorem visit_accounts (scan : Scan) (s : ScanState) (n : NodeId) :
    s.Accounts (scan.visit s n) := by
  have hmeet : s.Accounts (meet s) := (ScanState.Accounts.refl s).congr rfl rfl
  cases hsite : scan.unit.site? n with
  | none =>
    rw [visit_of_no_site hsite]
    exact hmeet
  | some site =>
    rw [visit_of_site hsite]
    exact (hmeet.trans (.foldl (handle_accounts scan) _ _)).trans
      (.foldl (tryRoot_accounts scan n) _ _)

theorem after_accounts (scan : Scan) (count : Nat) :
    ScanState.Accounts {} (scan.after count) := .foldl (visit_accounts scan) _ _

/-- What is told up to a node is told up to the end. -/
theorem after_accounts_run (scan : Scan) (count : Nat) :
    (scan.after count).Accounts scan.run := by
  have hsplit : scan.run = ((scan.unit.tree.preorder SyntaxTree.root).drop count).foldl scan.visit
      (scan.after count) := by
    rw [after, ← List.foldl_append, List.take_append_drop, run]
  rw [hsplit]
  exact .foldl (visit_accounts scan) _ _

/-- **Progress balances.**  At every moment of a scan, at most as many rule evaluations have started
as were planned.  Whenever a number of nodes has been met and the next has not, in particular at the
end, both numbers are that of the stores ever made, those counted that were thrown away; and what
was told up to then stays told. -/
theorem progress_balances (scan : Scan) :
    (∀ sofar, sofar <:+ scan.run.progress → sofar.count .started ≤ sofar.count .planned) ∧
    (∀ count, (scan.after count).progress <:+ scan.run.progress ∧
      (scan.after count).planned = (scan.after count).created ∧
      (scan.after count).started = (scan.after count).created) ∧
    scan.run.planned = scan.run.created ∧ scan.run.started = scan.run.created := by
  have hbetween : ∀ count, (scan.after count).planned = (scan.after count).created ∧
      (scan.after count).started = (scan.after count).created := by
    intro count
    have hprogress := (after_accounts scan count).progress_eq
    rw [ScanState.planned, ScanState.started, hprogress]
    exact ⟨ScanState.count_planned_told _, ScanState.count_started_told _⟩
  refine ⟨fun sofar hsofar => ?_,
    fun count => ⟨(after_accounts_run scan count).progress_suffix, hbetween count⟩, ?_⟩
  · have hprogress := (after_accounts_run scan 0).progress_eq
    exact ScanState.count_started_le_count_planned (hprogress ▸ hsofar)
  · rw [run_eq_after]
    exact hbetween _

/-- At the call whose argument is unknown two evaluations are planned and started, and at the call
on its result one more.  They stay counted though no store is left of them; and when the last one
was planned, it had not started yet. -/
theorem fruitless_evaluations_are_counted :
    Fruitless.work.run.stores.size = 0 ∧ Fruitless.work.run.created = 3 ∧
      Fruitless.work.run.planned = 3 ∧ Fruitless.work.run.started = 3 ∧
      ∃ sofar, sofar <:+ Fruitless.work.run.progress ∧
        sofar.count .started = 2 ∧ sofar.count .planned = 3 :=
  ⟨by decide +kernel, by decide +kernel, by decide +kernel, by decide +kernel,
    [.planned, .started, .planned, .started, .planned], by decide +kernel, by decide, by decide⟩

end Scan
end CryptoUsage
