import CryptoUsage.Proofs.Arena.Ancestry

/-!
# Work in one tree

All work of a scan is done on behalf of one root at a time.  `Works root` says what that can do to
an arena: what is there grows, and the stores of other trees stay exactly as they are.  Where a
store belongs is read off the root that it names, so "other trees" needs no walk.

## What is here

* `Works` is a preorder for each root, and the operations on stores of the tree have it: making a
  child below a store of the tree (`works_createChild`), writing to one (`works_modify`), and
  starting a new tree, which counts as work in that (`works_createRoot`).
* Detections of other trees do not change (`Works.detects_iff`).  This is what lets a root be
  judged by itself when it is settled: whatever happened for other roots in the meantime has no
  part in it.
* Work in a new tree, whose root is the first place that was free, leaves every store as it is
  (`Works.store?_eq`).  So all it did is behind the old end, and throwing that away gives the old
  arena back (`Works.truncate_eq`).  A scan does this with a root for which nothing was found.
-/

set_option autoImplicit false

namespace CryptoUsage
namespace Arena

variable {a b c : Arena} {root : StoreId}

/-- Work in the tree of a root leads from one arena to another. -/
structure Works (root : StoreId) (a b : Arena) : Prop where
  grows : a.Grows b
  /-- The stores of other trees are the same, and in the same places. -/
  frame : ∀ ⦃id store⦄, store.root ≠ root → (b.store? id = some store ↔ a.store? id = some store)

theorem Works.refl (root : StoreId) (a : Arena) : Works root a a := ⟨.refl a, fun _ _ _ => Iff.rfl⟩

theorem Works.trans (hab : Works root a b) (hbc : Works root b c) : Works root a c :=
  ⟨hab.grows.trans hbc.grows, fun _ _ hroot => (hbc.frame hroot).trans (hab.frame hroot)⟩

/-- What is detected in other trees does not change. -/
theorem Works.detects_iff (h : Works root a b) {top : StoreId} (hne : top ≠ root) :
    b.Detects top ↔ a.Detects top := by
  constructor
  · rintro ⟨id, store, hid, rfl, hdet⟩
    exact ⟨id, store, (h.frame hne).mp hid, rfl, hdet⟩
  · exact h.grows.detects

theorem works_createChild {parent : StoreId} {above : Store} (h : a.store? parent = some above)
    (hroot : above.root = root) (index : Int) (rule : RuleId) (hook : Option HookOrigin) :
    Works root a (a.createChild parent index rule hook).1 := by
  refine ⟨grows_createChild h index rule hook, fun id store hother => ?_⟩
  rw [store?_createChild h]
  split
  · next hnew =>
    -- the new store is of the tree, and nothing stood in its place
    rw [hnew, store?_eq_none (Nat.le_refl _)]
    constructor
    · intro heq
      exact absurd (by rw [← Option.some.inj heq]; exact hroot) hother
    · intro heq
      cases heq
  · split
    · next hparent =>
      rw [hparent, h]
      constructor
      · intro heq
        exact absurd (by rw [← Option.some.inj heq]; exact hroot) hother
      · intro heq
        exact absurd (by rw [← Option.some.inj heq]; exact hroot) hother
    · exact Iff.rfl

theorem works_modify {id : StoreId} {store : Store} (h : a.store? id = some store)
    (hroot : store.root = root) {change : Store → Store} (hgrows : store.Grows (change store)) :
    Works root a (a.modify id change) := by
  refine ⟨grows_modify h hgrows, fun j other hother => ?_⟩
  rw [store?_modify]
  split
  · next hij =>
    subst hij
    rw [h, Option.map_some]
    constructor
    · intro heq
      exact absurd (by rw [← Option.some.inj heq, hgrows.root]; exact hroot) hother
    · intro heq
      exact absurd (by rw [← Option.some.inj heq]; exact hroot) hother
  · exact Iff.rfl

/-- A new root starts a tree of its own. -/
theorem works_createRoot (a : Arena) (rule : RuleId) : Works a.size a (a.createRoot rule).1 := by
  refine ⟨grows_createRoot a rule, fun id store hother => ?_⟩
  rw [store?_createRoot]
  split
  · next hnew =>
    rw [hnew, store?_eq_none (Nat.le_refl _)]
    constructor
    · intro heq
      exact absurd (by rw [← Option.some.inj heq]; rfl) hother
    · intro heq
      cases heq
  · exact Iff.rfl

/-- Work in a new tree leaves every store as it is. -/
theorem Works.store?_eq (h : Works a.size a b) (ha : Linked a) {id : StoreId} {store : Store}
    (hid : a.store? id = some store) : b.store? id = some store := by
  have hlt := Nat.lt_of_le_of_lt (ha.root_le hid) (lt_size_of_store? hid)
  exact (h.frame (Nat.ne_of_lt hlt)).mpr hid

/-- Throwing away what work in a new tree made gives the arena back as it was. -/
theorem Works.truncate_eq (h : Works a.size a b) (ha : Linked a) : b.truncate a.size = a := by
  have hsize : (b.truncate a.size).size = a.size := by
    rw [size_truncate]
    exact Nat.min_eq_left h.grows.size_le
  refine ext_store? ?_
  intro id
  rcases Nat.lt_or_ge id a.size with hlt | hge
  · obtain ⟨store, hid⟩ := exists_store? hlt
    rw [hid]
    refine store?_truncate (h.store?_eq ha hid) (ha.full hid) (fun child hchild => ?_) hlt
    obtain ⟨i, hmem⟩ := Slots.mem_items.mp hchild
    obtain ⟨below, hbelow, -⟩ := (ha.child hid).mp hmem
    exact lt_size_of_store? hbelow
  · rw [store?_eq_none hge, store?_eq_none (Nat.le_trans (Nat.le_of_eq hsize) hge)]

end Arena
end CryptoUsage
