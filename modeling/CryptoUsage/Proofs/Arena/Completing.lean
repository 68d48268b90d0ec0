import CryptoUsage.Proofs.Arena.Framing
import CryptoUsage.Store.Finding
import Mathlib.Data.List.Forall2

/-!
# Completing a snapshot

A snapshot of a tree that is still added to is completed by the later ones: what it says stays,
and more is said behind it.  `FindingNode.IsCompletedBy` follows the shape of a snapshot: the rule
and the action are the same, and under every index the earlier values are the first of the later
ones, and so are the earlier children, each completed in its turn.

`Arena.IsCompletedBy` is the same for arenas.  It is a little more than `Arena.Grows`: no store
that was there may have got an action since, because a snapshot shows actions, and one that has
none would be changed by getting one.  In a scan this is so because a store gets its action
together with its site, when it is evaluated, and an emitted root has been evaluated already.

## What is here

`IsCompletedBy.project` is the statement for whole trees.  It goes level by level
(`IsCompletedBy.projectWithin`): children under an index are only added at the end, and those that
were there are live, so the induction hypothesis applies to each.  The later arena has more stores
and its snapshot may go further down; this is why the heights in the induction differ.

Work in a new tree completes what was there (`Works.isCompletedBy`), as it leaves it alone.
-/

set_option autoImplicit false

namespace CryptoUsage

/-- A snapshot says all that an earlier one says: the rule and the action are the same, and under
every index the earlier values are the first ones, and so are the earlier children, each completed
in its turn. -/
inductive FindingNode.IsCompletedBy : FindingNode → FindingNode → Prop
  | node {rule : RuleId} {action : Option DetectedValue} {values values' : Slots DetectedValue}
      {children children' : List (Int × List FindingNode)} (completed : Int → List FindingNode)
      (values_kept : ∀ i, Slots.at values i <+: Slots.at values' i)
      (children_completed : ∀ i,
        List.Forall₂ FindingNode.IsCompletedBy (Slots.at children i) (completed i))
      (children_kept : ∀ i, completed i <+: Slots.at children' i) :
      FindingNode.IsCompletedBy (.node rule action values children)
        (.node rule action values' children')

namespace Arena

variable {a b c : Arena}

/-- An arena as it is later, where no store that was there has got an action. -/
def IsCompletedBy (a b : Arena) : Prop :=
  ∀ ⦃id store⦄, a.store? id = some store →
    ∃ store', b.store? id = some store' ∧ store.Grows store' ∧ store'.action = store.action

theorem IsCompletedBy.refl (a : Arena) : a.IsCompletedBy a :=
  fun _ store hid => ⟨store, hid, .refl store, rfl⟩

theorem IsCompletedBy.trans (hab : a.IsCompletedBy b) (hbc : b.IsCompletedBy c) :
    a.IsCompletedBy c := by
  intro id store hid
  obtain ⟨store', hid', hgrows, haction⟩ := hab hid
  obtain ⟨store'', hid'', hgrows', haction'⟩ := hbc hid'
  exact ⟨store'', hid'', hgrows.trans hgrows', haction'.trans haction⟩

theorem IsCompletedBy.grows (h : a.IsCompletedBy b) : a.Grows b := by
  intro id store hid
  obtain ⟨store', hid', hgrows, -⟩ := h hid
  exact ⟨store', hid', hgrows⟩

/-- Work in a new tree completes what was there, as it leaves it alone. -/
theorem Works.isCompletedBy (h : Works a.size a b) (ha : Linked a) : a.IsCompletedBy b :=
  fun _ store hid => ⟨store, h.store?_eq ha hid, .refl store, rfl⟩

/-- Snapshots are completed level by level; a later one may go further down. -/
theorem IsCompletedBy.projectWithin (h : a.IsCompletedBy b) (ha : Linked a) {height height' : Nat}
    {id : StoreId} (hid : id < a.size) (hheight : height ≤ height') :
    (a.projectWithin height id).IsCompletedBy (b.projectWithin height' id) := by
  induction height generalizing id height' with
  | zero =>
    obtain ⟨store, hstore⟩ := exists_store? hid
    obtain ⟨store', hstore', hgrows, haction⟩ := h hstore
    cases height' <;>
      simp only [Arena.projectWithin, hstore, hstore', Option.getD_some, hgrows.rule, haction] <;>
      exact .node (fun _ => []) hgrows.values (fun _ => .nil) fun _ => List.nil_prefix
  | succ height ih =>
    obtain ⟨store, hstore⟩ := exists_store? hid
    obtain ⟨store', hstore', hgrows, haction⟩ := h hstore
    obtain ⟨height', rfl⟩ := Nat.exists_eq_add_of_lt hheight
    simp only [Arena.projectWithin, hstore, hstore', Option.getD_some, hgrows.rule, haction]
    refine .node (fun i => (Slots.at store.children i).map (b.projectWithin (height + height')))
      hgrows.values (fun i => ?_) fun i => ?_
    · rw [Slots.at_mapItems, List.forall₂_map_left_iff, List.forall₂_map_right_iff,
        List.forall₂_same]
      intro child hchild
      obtain ⟨below, hbelow, -⟩ := (ha.child hstore).mp hchild
      exact ih (lt_size_of_store? hbelow) (Nat.le_add_right ..)
    · rw [Slots.at_mapItems]
      exact (hgrows.children i).map _

/-- **The snapshot of a tree is completed by every later one.** -/
theorem IsCompletedBy.project (h : a.IsCompletedBy b) (ha : Linked a) {id : StoreId}
    (hid : id < a.size) : (a.project id).IsCompletedBy (b.project id) :=
  h.projectWithin ha hid h.grows.size_le

end Arena
end CryptoUsage
