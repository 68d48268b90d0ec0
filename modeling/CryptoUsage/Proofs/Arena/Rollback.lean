import Mathlib.Data.List.Nodup
import CryptoUsage.Proofs.Arena.Histories
import CryptoUsage.Proofs.Arena.Trees

/-!
# Going back to an earlier arena

Throwing away the stores made since some moment gives back the arena of that moment, provided that
nothing else that stood there was written to in the meantime.  Making children under old stores
does no harm: they are filed in order, so taking them out again leaves the lists as they were.  A
list that held new children only was not there before, and leaving out what is empty takes it away
again.

## How it goes

What carries the induction is `Restores`: every old store is still there, and equal to what it was
once its new children are left out (`Store.cut`).  Nothing that spares the old stores undoes this
(`Restores.move`): a new store is behind the mark; a child of an old store is left out again, and
the order of the lists is used here (`Store.cut_cut`).  So it holds after any number of such moves
(`Moves.restores`), and at the end the new stores themselves are dropped (`Restores.truncate_eq`).

`representation_and_rollback` says this together with what is invariant in every arena that the
operations can lead to: how stores name places, levels, parents and roots, where a store is filed
and how often (`WellFormed.count_children`), and that the lists of a store are kept by increasing
index, none of them empty.
-/

set_option autoImplicit false

namespace CryptoUsage
namespace Arena

variable {a b c : Arena}

theorem Store.cut_cut {store : Store} (hsorted : Slots.Sorted (· < ·) store.children)
    {mark place : Nat} (h : mark ≤ place) :
    (store.cut place).cut mark = store.cut mark := by
  have hboth : ∀ child : StoreId,
      (decide (child < mark) && decide (child < place)) = decide (child < mark) := by
    intro child
    rw [Bool.and_eq_left_iff_imp, decide_eq_true_iff, decide_eq_true_iff]
    exact fun hlt => Nat.lt_of_lt_of_le hlt h
  simp only [Store.cut, hsorted.retain_retain, hboth]

/-- Leaving out the new children of an arena gives the stores of an earlier one. -/
structure Restores (later earlier : Arena) : Prop where
  size_le : earlier.size ≤ later.size
  stores : ∀ ⦃id store⦄, earlier.store? id = some store →
    ∃ now, later.store? id = some now ∧ now.cut earlier.size = store

theorem WellFormed.restores (h : WellFormed a) : Restores a a :=
  ⟨Nat.le_refl _, fun _ store hid => ⟨store, hid, h.linked.cut_eq hid (Nat.le_refl _)⟩⟩

/-- A move that spares the old stores changes nothing of them but their new children. -/
theorem Restores.move (h : Restores b a) (hb : WellFormed b) (hmove : Move a.size b c) :
    Restores c a := by
  cases hmove with
  | root rule =>
    refine ⟨by rw [size_createRoot]; exact Nat.le_succ_of_le h.size_le, fun id store hid => ?_⟩
    obtain ⟨now, hnow, hcut⟩ := h.stores hid
    refine ⟨now, ?_, hcut⟩
    rw [store?_createRoot, if_neg (Nat.ne_of_lt (lt_size_of_store? hnow))]
    exact hnow
  | @child parent above live index rule hook =>
    refine ⟨by rw [size_createChild]; exact Nat.le_succ_of_le h.size_le, fun id store hid => ?_⟩
    obtain ⟨now, hnow, hcut⟩ := h.stores hid
    rw [store?_createChild live, if_neg (Nat.ne_of_lt (lt_size_of_store? hnow))]
    split
    · next hparent =>
      subst hparent
      cases hnow.symm.trans live
      refine ⟨_, rfl, ?_⟩
      -- the new child stands behind the mark
      have hout : decide (b.size < a.size) = false := by simpa using h.size_le
      rw [← hcut, Store.cut, Store.adopt, (hb.children live).retain_push hout, Store.cut]
    · exact ⟨now, hnow, hcut⟩
  | write spared writes =>
    refine ⟨by rw [size_modify]; exact h.size_le, fun id store hid => ?_⟩
    obtain ⟨now, hnow, hcut⟩ := h.stores hid
    have hbefore := Nat.lt_of_lt_of_le (lt_size_of_store? hid) spared
    rw [store?_modify, if_neg (Nat.ne_of_gt hbefore)]
    exact ⟨now, hnow, hcut⟩
  | @cut place spared =>
    refine ⟨by rw [size_truncate]; exact Nat.le_min.mpr ⟨spared, h.size_le⟩, fun id store hid => ?_⟩
    obtain ⟨now, hnow, hcut⟩ := h.stores hid
    have hbefore := Nat.lt_of_lt_of_le (lt_size_of_store? hid) spared
    rw [hb.linked.store?_truncate, if_pos hbefore, hnow]
    exact ⟨now.cut place, rfl, by rw [Store.cut_cut (hb.children hnow) spared]; exact hcut⟩

theorem Moves.restores (h : Moves a.size a b) (ha : WellFormed a) : Restores b a := by
  induction h with
  | refl => exact ha.restores
  | tail hmoves hmove ih => exact ih.move (Moves.wellFormed hmoves ha) hmove

/-- Throwing the later stores away leaves no new child either. -/
theorem Restores.truncate_eq (h : Restores b a) (hb : WellFormed b) : b.truncate a.size = a := by
  refine ext_store? fun id => ?_
  rw [hb.linked.store?_truncate]
  split
  · next hlt =>
    obtain ⟨store, hid⟩ := exists_store? hlt
    obtain ⟨now, hnow, hcut⟩ := h.stores hid
    rw [hid, hnow, Option.map_some, hcut]
  · next hge => rw [store?_eq_none (Nat.le_of_not_lt hge)]

/-- How often a store is filed under an index of another one. -/
theorem WellFormed.count_children (h : WellFormed a) {p c : StoreId} {above below : Store} {i : Int}
    (hp : a.store? p = some above) (hc : a.store? c = some below) :
    (Slots.at above.children i).count c = if below.parent = some (p, i) then 1 else 0 := by
  have hmem : c ∈ Slots.at above.children i ↔ below.parent = some (p, i) := by
    rw [h.linked.child hp]
    constructor
    · rintro ⟨store, hstore, hpar⟩
      cases hstore.symm.trans hc
      exact hpar
    · exact fun hpar => ⟨below, hc, hpar⟩
  have hnodup : (Slots.at above.children i).Nodup := ((h.children hp).at i).imp Nat.ne_of_lt
  split
  · next hpar => exact List.count_eq_one_of_mem hnodup (hmem.mpr hpar)
  · next hpar => exact List.count_eq_zero_of_not_mem fun hin => hpar (hmem.mp hin)

/-- **What holds of every arena, and how to go back.**

In every arena that the operations can lead to, a store names the place where it stands.  The stores
at level zero are the ones without parent, and each is its own root; any other store stands behind
its parent, one level below it and in the same tree.  A store is filed once, under its index of its
parent, and nowhere else.  The children and the values of a store are kept as maps: one list for an
index, by increasing index.  No list is empty; the children of one index stand in increasing places,
and the values of one index are different.

If an arena becomes another one while what it holds is spared, then throwing away what was made
since gives back the first one exactly. -/
theorem representation_and_rollback :
    (∀ arena, Reachable arena → ∀ id store, arena.store? id = some store →
      store.id = id ∧
      (store.parent = none ↔ store.level = 0) ∧
      (store.parent = none → store.root = id) ∧
      (∀ p i, store.parent = some (p, i) → p < id ∧ ∃ above, arena.store? p = some above ∧
        store.level = above.level + 1 ∧ store.root = above.root) ∧
      (∀ i, ∀ child ∈ Slots.at store.children i, ∃ below, arena.store? child = some below) ∧
      (∀ child below i, arena.store? child = some below →
        (Slots.at store.children i).count child =
          if below.parent = some (id, i) then 1 else 0) ∧
      store.children.Pairwise (fun entry entry' => entry.1 < entry'.1) ∧
      (∀ entry ∈ store.children, entry.2 ≠ [] ∧ entry.2.Pairwise (· < ·)) ∧
      store.values.Pairwise (fun entry entry' => entry.1 < entry'.1) ∧
      ∀ entry ∈ store.values, entry.2 ≠ [] ∧ entry.2.Nodup) ∧
    (∀ earlier later, Reachable earlier → Becomes earlier.size earlier later →
      later.truncate earlier.size = earlier) := by
  constructor
  · intro arena hreachable id store hid
    have h := hreachable.wellFormed
    have hchildren := h.children hid
    have hvalues := h.values hid
    refine ⟨h.linked.self hid, h.linked.parent_eq_none_iff hid,
      fun hpar => (h.linked.root hid hpar).2, fun p i hpar => h.linked.parent hid hpar,
      fun i child hchild => ?_, fun child below i hchild => h.count_children hid hchild,
      hchildren.keys,
      fun entry hentry => ⟨h.linked.full hid entry hentry, hchildren.lists _ hentry⟩,
      hvalues.keys, fun entry hentry => ⟨h.full hid entry hentry, hvalues.lists _ hentry⟩⟩
    obtain ⟨below, hbelow, -⟩ := (h.linked.child hid).mp hchild
    exact ⟨below, hbelow⟩
  · intro earlier later hreachable hbecomes
    have hearlier := hreachable.wellFormed
    have hmoves := hbecomes.moves hearlier
    exact (hmoves.restores hearlier).truncate_eq (hmoves.wellFormed hearlier)

end Arena
end CryptoUsage
