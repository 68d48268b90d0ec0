import CryptoUsage.Store.Finding
import Mathlib.Data.List.Basic

/-!
# Snapshots as trees

A snapshot is a tree: `FindingNode.nodes` lists its nodes depth first, `FindingNode.at?` follows a
path from the root, one place among the children at a time, and `FindingNode.label` is what a node
says by itself.  Whatever is collected of a snapshot is collected node by node
(`FindingNode.allValues_eq`), and snapshots are equal if they agree at every path
(`FindingNode.eq_iff_label_at?`).

Snapshots are nested in the lists of their children, and these in the lists of the indices.  What is
collected is defined by recursion over all three, and the lemmas `nodes_node` and `allValues_node`
bring it back to the children in a row (`Slots.items`); from there on the indices play no part.
Proofs go by `FindingNode.ind`: what holds of a node whenever it holds of its children holds of
every snapshot.

A path tells children apart by their place in the row, and not by their index.  So that nothing is
lost, a label says how many children there are under each index; with that, the row determines the
lists (`FindingNode.children_eq`).
-/

set_option autoImplicit false

namespace CryptoUsage
namespace FindingNode

/-- What holds of a node whenever it holds of its children holds of every snapshot. -/
@[elab_as_elim] theorem ind {motive : FindingNode → Prop}
    (node : ∀ rule action values children, (∀ entry ∈ children, ∀ child ∈ entry.2, motive child) →
      motive (node rule action values children)) (snapshot : FindingNode) : motive snapshot := by
  refine @FindingNode.rec motive
    (fun children => ∀ entry ∈ children, ∀ child ∈ entry.2, motive child)
    (fun entry => ∀ child ∈ entry.2, motive child) (fun list => ∀ child ∈ list, motive child)
    node ?_ ?_ ?_ ?_ ?_ snapshot
  · exact fun entry hentry => absurd hentry List.not_mem_nil
  · exact fun first rest hfirst hrest => List.forall_mem_cons.mpr ⟨hfirst, hrest⟩
  · exact fun _ _ h => h
  · exact fun child hchild => absurd hchild List.not_mem_nil
  · exact fun first rest hfirst hrest => List.forall_mem_cons.mpr ⟨hfirst, hrest⟩

/-! ## Depth first -/

mutual

/-- The nodes of a snapshot, depth first: each before those below it. -/
def nodes : FindingNode → List FindingNode
  | node rule action values children => node rule action values children :: nodesOfSlots children

/-- The nodes of the snapshots by index, in order. -/
def nodesOfSlots : List (Int × List FindingNode) → List FindingNode
  | [] => []
  | (_, children) :: rest => nodesOf children ++ nodesOfSlots rest

/-- The nodes of snapshots in a row. -/
def nodesOf : List FindingNode → List FindingNode
  | [] => []
  | child :: rest => nodes child ++ nodesOf rest

end

variable (rule : RuleId) (action : Option DetectedValue) (values : Slots DetectedValue)
  (children : List (Int × List FindingNode))

theorem nodesOf_eq (list : List FindingNode) : nodesOf list = list.flatMap nodes := by
  induction list with
  | nil => rfl
  | cons child rest ih => rw [nodesOf, ih, List.flatMap_cons]

theorem nodesOfSlots_eq : nodesOfSlots children = (Slots.items children).flatMap nodes := by
  induction children with
  | nil => rfl
  | cons entry rest ih =>
    rw [nodesOfSlots, ih, nodesOf_eq, Slots.items, Slots.items, List.flatMap_cons,
      List.flatMap_append]

theorem nodes_node : (node rule action values children).nodes =
    node rule action values children :: (Slots.items children).flatMap nodes := by
  rw [nodes, nodesOfSlots_eq]

theorem allValuesOf_eq (list : List FindingNode) : allValuesOf list = list.flatMap allValues := by
  induction list with
  | nil => rfl
  | cons child rest ih => rw [allValuesOf, ih, List.flatMap_cons]

theorem allValuesOfSlots_eq :
    allValuesOfSlots children = (Slots.items children).flatMap allValues := by
  induction children with
  | nil => rfl
  | cons entry rest ih =>
    rw [allValuesOfSlots, ih, allValuesOf_eq, Slots.items, Slots.items, List.flatMap_cons,
      List.flatMap_append]

theorem allValues_node : (node rule action values children).allValues =
    action.toList ++ values.items ++ (Slots.items children).flatMap allValues := by
  rw [allValues, allValuesOfSlots_eq]

/-- **The values of a snapshot** are the action and the values of each node, depth first. -/
theorem allValues_eq (snapshot : FindingNode) : snapshot.allValues =
    snapshot.nodes.flatMap fun node => node.action.toList ++ node.values.items := by
  induction snapshot using ind with
  | node rule action values children ih =>
    rw [allValues_node, nodes_node, List.flatMap_cons, List.flatMap_assoc]
    refine congrArg _ (List.flatMap_congr fun child hchild => ?_)
    obtain ⟨entry, hentry, hmem⟩ := List.mem_flatMap.mp hchild
    exact ih entry hentry child hmem

/-! ## Node by node -/

/-- What a node says by itself: its rule, its action, its values and how many children it has under
each index. -/
structure Label where
  rule : RuleId
  action : Option DetectedValue
  values : Slots DetectedValue
  arity : List (Int × Nat)
deriving DecidableEq, Repr

/-- What a node says by itself. -/
def label (snapshot : FindingNode) : Label :=
  { rule := snapshot.rule
    action := snapshot.action
    values := snapshot.values
    arity := snapshot.children.map fun (i, children) => (i, children.length) }

/-- The node at the end of a path, which goes on to a child by its place among all the children. -/
def at? : FindingNode → List Nat → Option FindingNode
  | snapshot, [] => some snapshot
  | snapshot, place :: path => snapshot.children.items[place]?.bind fun child => child.at? path

/-- Snapshots by index are equal if under each index they are as many and equal in turn. -/
theorem children_eq {as bs : Slots FindingNode}
    (harity : (as.map fun (i, children) => (i, children.length)) =
      bs.map fun (i, children) => (i, children.length))
    (hitems : as.items = bs.items) : as = bs := by
  induction as generalizing bs with
  | nil => exact (List.map_eq_nil_iff.mp harity.symm).symm
  | cons a as ih =>
    obtain ⟨b, bs, rfl⟩ : ∃ b rest, bs = b :: rest := by
      cases bs with
      | nil => cases harity
      | cons b bs => exact ⟨b, bs, rfl⟩
    rw [List.map_cons, List.map_cons, List.cons.injEq, Prod.mk.injEq] at harity
    obtain ⟨⟨hindex, hlength⟩, hrest⟩ := harity
    rw [Slots.items, Slots.items, List.flatMap_cons, List.flatMap_cons] at hitems
    obtain ⟨hlist, hitems⟩ := List.append_inj hitems hlength
    rw [Prod.ext hindex hlist, ih hrest hitems]

/-- **Snapshots are equal if they are equal node by node.** -/
theorem eq_iff_label_at? {a b : FindingNode} :
    a = b ↔ ∀ path, (a.at? path).map label = (b.at? path).map label := by
  refine ⟨by rintro rfl path; rfl, fun h => ?_⟩
  induction a using ind generalizing b with
  | node rule action values children ih =>
    obtain ⟨rule', action', values', children'⟩ := b
    have hroot := Option.some.inj (h [])
    simp only [label, FindingNode.rule, FindingNode.action, FindingNode.values,
      FindingNode.children, Label.mk.injEq] at hroot
    obtain ⟨rfl, rfl, rfl, harity⟩ := hroot
    have hplace (place : Nat) (path : List Nat) :
        ((Slots.items children)[place]?.bind fun child => child.at? path).map label =
          ((Slots.items children')[place]?.bind fun child => child.at? path).map label := by
      simpa only [at?, FindingNode.children] using h (place :: path)
    have hitems : Slots.items children = Slots.items children' := by
      refine List.ext_getElem? fun place => ?_
      -- the path that ends here says whether there is a child at the place at all
      have hhere := hplace place []
      cases ha : (Slots.items children)[place]? with
      | none =>
        rw [ha] at hhere
        cases hb : (Slots.items children')[place]? with
        | none => rfl
        | some b => simp [hb, at?] at hhere
      | some a =>
        rw [ha] at hhere
        cases hb : (Slots.items children')[place]? with
        | none => simp [hb, at?] at hhere
        | some b =>
          obtain ⟨entry, hentry, hmem⟩ := List.mem_flatMap.mp (List.mem_of_getElem? ha)
          refine congrArg some (ih entry hentry a hmem fun path => ?_)
          simpa only [ha, hb, Option.bind_some] using hplace place path
    rw [children_eq harity hitems]

end FindingNode
end CryptoUsage
