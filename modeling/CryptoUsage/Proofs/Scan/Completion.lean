import CryptoUsage.Proofs.Arena.Completing
import CryptoUsage.Proofs.Scan.Acts
import CryptoUsage.Proofs.Scan.Distinct

/-!
# Findings are completed, never taken back

A finding is a snapshot, taken when its root is emitted.  Observers that are served afterwards
still write to the same tree, and roots that come to nothing are thrown away from the same arena.
But all of that only adds behind what is there: a store keeps its rule and its place, values and
children go to the end of their lists, and no rule is evaluated again for an old store, so none of
them gets an action late.  So the final tree says everything that the finding said.

## How it goes

That a tree completes another one is defined on snapshots, as a recursion over them
(`FindingNode.IsCompletedBy`), and follows from a relation between arenas in the file on
completing.

* Single events.  The work for a root makes arenas grow, and gives no site to an old store
  (`keepsSites_handle`, from the acts of an evaluation).  An action is given together with a site,
  so old stores keep theirs (`Runs.isCompletedBy`).  When a root is tried, the new stores are
  those that are given sites; if they are thrown away, the old ones are as before.
* Many events.  Both what is completed and what was emitted are kept from event to event, up to
  the end of the scan (`Proceeds.isCompletedBy`, `Proceeds.emitted_mono`).
* Emitted roots.  An emission is an event with a state behind it, whose snapshot is the finding.
  From there the scan goes on to its end, so the tree in the end completes the snapshot
  (`findings_are_completed`).
-/

set_option autoImplicit false

namespace CryptoUsage
namespace Scan

variable {scan : Scan} {s s' : ScanState} {root : StoreId}

/-- Work that gives no site to an old store gives no action to one. -/
theorem Runs.isCompletedBy (h : scan.Runs root s s')
    (hsites : s.stores.KeepsSites s.stores.size s'.stores) : s.stores.IsCompletedBy s'.stores := by
  intro id store hid
  obtain ⟨store', hid', hgrows⟩ := h.works.grows hid
  refine ⟨store', hid', hgrows, ?_⟩
  by_cases hsite : store.site = none
  · have hkept := hsites.sites id (Arena.lt_size_of_store? hid)
    rw [hid, hid', Option.map_some, Option.map_some, Option.some.injEq] at hkept
    rw [h.unclaimed_eq hid hid' (hkept.trans hsite)]
  · exact hgrows.settled hsite

/-! ## Single events -/

/-- Handling an event gives no site to an old store. -/
theorem keepsSites_handle (scan : Scan) (s : ScanState) (event : HookEvent) :
    s.stores.KeepsSites s.stores.size (scan.handle s event).stores := by
  rw [handle]
  split
  · next hook observer _ _ =>
    have hacts : scan.Acts s.stores.size s _ :=
      deliver_acts hook.kind observer event.trigger (Nat.le_refl _)
    have hsites := hacts.keepsSites (Nat.le_refl _)
    simp only [stores_emitIfDetected]
    split <;> exact hsites
  · exact .refl ..

theorem isCompletedBy_handle (hs : scan.Explained s) {event : HookEvent} (hdue : scan.Due s event) :
    s.stores.IsCompletedBy (scan.handle s event).stores := by
  have hsites := keepsSites_handle scan s event
  rcases handle_cases hs hdue with heq | ⟨_, _, s', _, -, hruns, -, heq⟩
  · rw [heq]
    exact .refl s.stores
  · rw [heq, stores_emitIfDetected] at hsites ⊢
    exact hruns.isCompletedBy hsites

theorem isCompletedBy_tryRoot (hs : scan.Explained s) (n : NodeId) (rule : RuleId) :
    s.stores.IsCompletedBy (scan.tryRoot n s rule).stores := by
  obtain ⟨s', hruns, heq | ⟨heq, -⟩⟩ := tryRoot_cases hs n rule
  · rw [heq, stores_emitIfDetected]
    exact ((works_plant s rule).trans hruns.works).isCompletedBy hs.linked
  · rw [heq]
    exact .refl s.stores

/-- **Every event completes what is there.** -/
theorem Advances.isCompletedBy (h : scan.Advances s s') : s.stores.IsCompletedBy s'.stores := by
  obtain ⟨hs, -, rfl | ⟨event, hdue, rfl⟩ | ⟨n, rule, rfl⟩⟩ := h.cases_of_kept (sound_kept scan)
  · exact .refl s.stores
  · exact isCompletedBy_handle hs.explained hdue
  · exact isCompletedBy_tryRoot hs.explained n rule

theorem Proceeds.isCompletedBy (h : scan.Proceeds s s') : s.stores.IsCompletedBy s'.stores := by
  induction h with
  | refl => exact .refl s.stores
  | tail _ hadvances ih => exact ih.trans hadvances.isCompletedBy

/-! ## Emitted roots -/

theorem subset_emitIfDetected (scan : Scan) (s : ScanState) (root : StoreId) :
    s.emitted <+: (scan.emitIfDetected s root).emitted := by
  rcases emitIfDetected_cases scan s root with ⟨h, -⟩ | ⟨-, -, h⟩ <;> rw [h]
  exact List.prefix_append ..

/-- Once emitted, always emitted. -/
theorem Advances.emitted_mono (h : scan.Advances s s') : s.emitted <+: s'.emitted := by
  obtain ⟨hs, -, rfl | ⟨event, hdue, rfl⟩ | ⟨n, rule, rfl⟩⟩ := h.cases_of_kept (sound_kept scan)
  · exact List.prefix_rfl
  · rcases handle_cases hs.explained hdue with heq | ⟨_, observer, s', hooks, -, hruns, -, heq⟩ <;>
      rw [heq]
    exact hruns.emitted_eq ▸ subset_emitIfDetected scan { s' with hooks } observer.root
  · obtain ⟨s', hruns, heq | ⟨heq, -⟩⟩ := tryRoot_cases hs.explained n rule <;> rw [heq]
    · exact hruns.emitted_eq ▸ subset_emitIfDetected ..
    · exact hruns.emitted_eq ▸ List.prefix_rfl

theorem Proceeds.emitted_mono (h : scan.Proceeds s s') : s.emitted <+: s'.emitted := by
  induction h with
  | refl => exact List.prefix_rfl
  | tail _ hadvances ih => exact ih.trans hadvances.emitted_mono

/-- What a root is emitted as is completed by its tree in the end. -/
theorem IsEmittedAs.isCompletedBy {finding : Finding} (h : scan.IsEmittedAs root finding) :
    root ∈ scan.run.emitted ∧ finding.root.IsCompletedBy (scan.treeOf root) := by
  obtain ⟨s, s', hadvances, hemitted, rfl⟩ := h
  obtain ⟨-, hs', -⟩ := hadvances.cases_of_kept (sound_kept scan)
  have hproceeds := hadvances.proceeds_run (by simp [hemitted])
  have hmem : root ∈ s'.emitted := by simp [hemitted]
  obtain ⟨store, hroot, -⟩ := hs'.emitted hmem
  exact ⟨hproceeds.emitted_mono.subset hmem,
    hproceeds.isCompletedBy.project hs'.explained.linked (Arena.lt_size_of_store? hroot)⟩

/-- **Hooks only complete a finding.**  Every emitted root was emitted as a finding.  Whatever a
root was emitted as, the tree of the root in the end completes it: at the top and at every child the
rule and the action are the same, and under every index the values that were reported are the first
ones, and so are the children, each completed in its turn. -/
theorem findings_are_completed (scan : Scan) :
    (∀ root ∈ scan.run.emitted, ∃ finding, scan.IsEmittedAs root finding) ∧
    ∀ root finding, scan.IsEmittedAs root finding →
      root ∈ scan.run.emitted ∧ finding.root.IsCompletedBy (scan.treeOf root) := by
  refine ⟨fun root hroot => ?_, fun root finding h => h.isCompletedBy⟩
  obtain ⟨form, hforms⟩ := exists_forms scan
  exact ⟨form root, hforms.emitted root hroot⟩

end Scan
end CryptoUsage
