import CryptoUsage.Proofs.Arena.Links

/-!
# Trees of stores

In a linked arena every store is below exactly one root, the one that it names.  So "somewhere in
the tree of a root" can be said in two ways: by the links from parents to children, which is how
`hasDetections` looks for detections, and by the root that a store names, which is what is easy to
follow through a scan.  `Linked.under_iff` and `Linked.hasDetections_root_iff` say that they
agree.

## What is here

* Going down.  `Arena.IsParent` is filing directly, `Arena.Under` any number of such steps.
  Places increase on the way (`Linked.le_of_under`), and the root stays the same
  (`Linked.root_of_under`).
* Going up.  The root that a store names is there, is a root, and has the store below it.  The
  proof is by induction on the place, since a parent stands in front (`Linked.exists_root`).
* `Linked.under_iff` puts the two together.

## Detections

`hasDetections` walks down with as many steps as there are stores.  A detection that it finds is
in the tree (`under_of_hasDetectionsWithin`), and one that is in the tree is found, because places
increase and so the steps suffice (`Linked.hasDetectionsWithin_of_under`).  In terms of roots this
is `Arena.Detects`, and the statements about emitted roots are made with that.
-/

set_option autoImplicit false

namespace CryptoUsage
namespace Arena

variable {arena : Arena}

/-- The stores at level zero are the ones without parent. -/
theorem Linked.parent_eq_none_iff (h : Linked arena) {id : StoreId} {store : Store}
    (hid : arena.store? id = some store) : store.parent = none ↔ store.level = 0 := by
  constructor
  · exact fun hpar => (h.root hid hpar).1
  · intro hlevel
    cases hpar : store.parent with
    | none => rfl
    | some above =>
      obtain ⟨p, i⟩ := above
      obtain ⟨-, above, -, habove, -⟩ := h.parent hid hpar
      rw [hlevel] at habove
      cases habove

theorem Linked.isParent_iff (h : Linked arena) {p c : StoreId} :
    arena.IsParent p c ↔ ∃ store i, arena.store? c = some store ∧ store.parent = some (p, i) := by
  constructor
  · rintro ⟨above, i, hp, hmem⟩
    obtain ⟨store, hc, hpar⟩ := (h.child hp).mp hmem
    exact ⟨store, i, hc, hpar⟩
  · rintro ⟨store, i, hc, hpar⟩
    obtain ⟨-, above, hp, -⟩ := h.parent hc hpar
    exact ⟨above, i, hp, (h.child hp).mpr ⟨store, hc, hpar⟩⟩

theorem Linked.lt_of_isParent (h : Linked arena) {p c : StoreId} (hpc : arena.IsParent p c) :
    p < c := by
  obtain ⟨store, i, hc, hpar⟩ := h.isParent_iff.mp hpc
  exact (h.parent hc hpar).1

theorem Linked.le_of_under (h : Linked arena) {top id : StoreId} (hu : arena.Under top id) :
    top ≤ id := by
  induction hu with
  | refl => exact Nat.le_refl _
  | tail _ hstep ih => exact Nat.le_trans ih (Nat.le_of_lt (h.lt_of_isParent hstep))

/-- The root that a store names is a root, and the store is below it. -/
theorem Linked.exists_root (h : Linked arena) {id : StoreId} :
    ∀ {store : Store}, arena.store? id = some store →
      arena.Under store.root id ∧ ∃ top, arena.store? store.root = some top ∧ top.parent = none ∧
        top.level = 0 ∧ top.root = store.root := by
  induction id using Nat.strongRecOn with
  | ind id ih =>
    intro store hid
    cases hpar : store.parent with
    | none =>
      obtain ⟨hlevel, hroot⟩ := h.root hid hpar
      rw [hroot]
      exact ⟨.refl, store, hid, hpar, hlevel, hroot⟩
    | some above =>
      obtain ⟨p, i⟩ := above
      obtain ⟨hlt, above, habove, -, hroot⟩ := h.parent hid hpar
      obtain ⟨hunder, htop⟩ := ih p hlt habove
      rw [hroot]
      exact ⟨hunder.tail (h.isParent_iff.mpr ⟨store, i, hid, hpar⟩), htop⟩

theorem Linked.root_le (h : Linked arena) {id : StoreId} {store : Store}
    (hid : arena.store? id = some store) : store.root ≤ id :=
  h.le_of_under (h.exists_root hid).1

/-- Going down keeps the root. -/
theorem Linked.root_of_under (h : Linked arena) {top id : StoreId} {store : Store}
    (htop : arena.store? top = some store) (hu : arena.Under top id) :
    ∃ below, arena.store? id = some below ∧ below.root = store.root := by
  induction hu with
  | refl => exact ⟨store, htop, rfl⟩
  | tail _ hstep ih =>
    obtain ⟨above, habove, hroot⟩ := ih
    obtain ⟨child, i, hchild, hpar⟩ := h.isParent_iff.mp hstep
    obtain ⟨-, above', habove', -, hroot'⟩ := h.parent hchild hpar
    cases habove.symm.trans habove'
    exact ⟨child, hchild, hroot'.trans hroot⟩

/-- **The tree of a root is what names it.** -/
theorem Linked.under_iff (h : Linked arena) {top id : StoreId} {store : Store}
    (htop : arena.store? top = some store) (hroot : store.root = top) :
    arena.Under top id ↔ ∃ below, arena.store? id = some below ∧ below.root = top := by
  constructor
  · intro hu
    obtain ⟨below, hbelow, hr⟩ := h.root_of_under htop hu
    exact ⟨below, hbelow, hr.trans hroot⟩
  · rintro ⟨below, hbelow, rfl⟩
    exact (h.exists_root hbelow).1

/-! ## Detections in a tree -/

theorem under_of_hasDetectionsWithin {height : Nat} {top : StoreId}
    (hd : arena.hasDetectionsWithin height top = true) :
    ∃ id store, arena.Under top id ∧ arena.store? id = some store ∧ store.isDetection = true := by
  induction height generalizing top with
  | zero =>
    rw [hasDetectionsWithin, Option.any_eq_true] at hd
    obtain ⟨store, htop, hdet⟩ := hd
    exact ⟨top, store, .refl, htop, hdet⟩
  | succ height ih =>
    rw [hasDetectionsWithin, Option.any_eq_true] at hd
    obtain ⟨store, htop, hd⟩ := hd
    rcases Bool.or_eq_true_iff.mp hd with hdet | hany
    · exact ⟨top, store, .refl, htop, hdet⟩
    · obtain ⟨child, hmem, hchild⟩ := List.any_eq_true.mp hany
      obtain ⟨i, hfiled⟩ := Slots.mem_items.mp hmem
      obtain ⟨id, below, hunder, hrest⟩ := ih hchild
      exact ⟨id, below, .head ⟨store, i, htop, hfiled⟩ hunder, hrest⟩

/-- The search for detections goes down far enough: places increase on the way. -/
theorem Linked.hasDetectionsWithin_of_under (h : Linked arena) {height : Nat} {top id : StoreId}
    {store : Store} (hu : arena.Under top id) (hid : arena.store? id = some store)
    (hdet : store.isDetection = true) (hheight : id ≤ top + height) :
    arena.hasDetectionsWithin height top = true := by
  induction height generalizing top with
  | zero =>
    obtain rfl : top = id := Nat.le_antisymm (h.le_of_under hu) hheight
    rw [hasDetectionsWithin, hid]
    exact hdet
  | succ height ih =>
    rw [hasDetectionsWithin]
    rcases Relation.ReflTransGen.cases_head hu with rfl | ⟨child, hstep, hrest⟩
    · rw [hid, Option.any_some, hdet, Bool.true_or]
    · have hlt := h.lt_of_isParent hstep
      have hchild := ih hrest <|
        calc id ≤ (top + 1) + height := by rwa [Nat.add_right_comm, Nat.add_assoc]
          _ ≤ child + height := Nat.add_le_add_right hlt height
      obtain ⟨above, i, htop, hmem⟩ := hstep
      rw [htop, Option.any_some, Bool.or_eq_true_iff]
      exact .inr (List.any_eq_true.mpr ⟨child, Slots.mem_items.mpr ⟨i, hmem⟩, hchild⟩)

/-- `hasDetections` finds a detection exactly if there is one in the store or below it. -/
theorem Linked.hasDetections_iff (h : Linked arena) {top : StoreId} :
    arena.hasDetections top = true ↔
      ∃ id store, arena.Under top id ∧ arena.store? id = some store ∧ store.isDetection = true := by
  constructor
  · exact under_of_hasDetectionsWithin
  · rintro ⟨id, store, hu, hid, hdet⟩
    have hlt := lt_size_of_store? hid
    exact h.hasDetectionsWithin_of_under hu hid hdet (Nat.le_add_left_of_le (Nat.le_of_lt hlt))

/-- A store of the tree of a root holds a value or an action. -/
def Detects (arena : Arena) (root : StoreId) : Prop :=
  ∃ id store, arena.store? id = some store ∧ store.root = root ∧ store.isDetection = true

theorem Linked.hasDetections_root_iff (h : Linked arena) {top : StoreId} {store : Store}
    (htop : arena.store? top = some store) (hroot : store.root = top) :
    arena.hasDetections top = true ↔ arena.Detects top := by
  rw [h.hasDetections_iff]
  constructor
  · rintro ⟨id, below, hu, hid, hdet⟩
    obtain ⟨below', hid', hr⟩ := (h.under_iff htop hroot).mp hu
    cases hid.symm.trans hid'
    exact ⟨id, below, hid, hr, hdet⟩
  · rintro ⟨id, below, hid, hr, hdet⟩
    exact ⟨id, below, (h.under_iff htop hroot).mpr ⟨below, hid, hr⟩, hid, hdet⟩

end Arena
end CryptoUsage
