import CryptoUsage.Syntax.Tree
import Mathlib.Data.List.Nodup
import Mathlib.Data.List.Induction

/-!
# Nodes within nodes

A walk up a tree and a walk down see the same thing.  The nodes above a node end in the nodes
above any of them (`ancestors_of_append`), and a node is in the subtree of another exactly if that
stands among the nodes above it, where a walk down that does not enter everything reaches a node
exactly if it enters whatever lies in between (`mem_preorderWhile_iff`).

Scopes of variables are found upwards and searched downwards, so this is what connects a lookup
with a search.

## What is here

* Parents and children.  A child has the node as its parent, whichever of the lists of children it
  is taken from, and a node that is a parent is a node of the tree.
* The way up.  Parents have smaller numbers, so a list of ancestors is computed in as many steps
  as the number of the node (`ancestorsWithin_of_le`), and after that it obeys its equation
  (`ancestors_of_parent?`).  What is above is cut at any of its members (`exists_between`); a
  search upwards passes over what is in between (`find?_ancestors`).
* The way down.  A walk meets only what stands below its top (`between_of_mem_preorderWithin`, by
  induction on its height) and all of that if it goes far enough (`mem_preorderWithin_of_between`,
  by induction on what lies in between, from the end).  It meets every node once
  (`nodup_preorderWithin`): two children have different subtrees, as the way up from a node is
  only one.
-/

set_option autoImplicit false

namespace CryptoUsage
namespace SyntaxTree

variable (t : SyntaxTree)

/-! ## Parents and children -/

theorem lt_size_of_parent? {n p : NodeId} (h : t.parent? n = some p) : n < t.size := by
  obtain ⟨node, hnode, -⟩ := Option.bind_eq_some_iff.mp h
  exact (Array.getElem?_eq_some_iff.mp hnode).1

theorem lt_size_of_kind_ne {n : NodeId} (h : t.kind n ≠ "") : n < t.size := by
  by_contra hge
  rw [kind, Array.getElem?_eq_none (Nat.le_of_not_lt hge)] at h
  exact h rfl

theorem children_eq_filter (n : NodeId) :
    t.children n = (List.range t.size).filter fun c => t.parent? c == some n := by
  rw [children, t.childTable_eq, childTableOf, Array.getD_eq_getD_getElem?, Array.getElem?_ofFn]
  by_cases hn : n < t.nodes.size
  · rw [dif_pos hn]
    rfl
  · rw [dif_neg hn]
    refine (List.filter_eq_nil_iff.mpr fun c _ hparent => hn ?_).symm
    have hparent := beq_iff_eq.mp hparent
    exact Nat.lt_trans (t.parent?_lt hparent) (t.lt_size_of_parent? hparent)

theorem lt_of_mem_namedChildren {n c : NodeId} (h : c ∈ t.namedChildren n) : n < c :=
  t.parent?_lt (t.mem_children_iff.mp (List.mem_of_mem_filter h)).2

variable {t}

theorem parent?_of_mem_children {n c : NodeId} (h : c ∈ t.children n) : t.parent? c = some n :=
  (t.mem_children_iff.mp h).2

theorem mem_children_of_parent? {n c : NodeId} (h : t.parent? c = some n) : c ∈ t.children n :=
  t.mem_children_iff.mpr ⟨Nat.lt_trans (t.parent?_lt h) (t.lt_size_of_parent? h), h⟩

theorem parent?_of_mem_namedChildren {n c : NodeId} (h : c ∈ t.namedChildren n) :
    t.parent? c = some n := parent?_of_mem_children (List.mem_of_mem_filter h)

theorem parent?_of_mem_childrenIn {n c : NodeId} {field : String} (h : c ∈ t.childrenIn n field) :
    t.parent? c = some n ∧ t.field? c = some field := by
  obtain ⟨hc, hfield⟩ := List.mem_filter.mp h
  exact ⟨parent?_of_mem_children hc, beq_iff_eq.mp hfield⟩

theorem parent?_of_child? {n c : NodeId} {field : String} (h : t.child? n field = some c) :
    t.parent? c = some n ∧ t.field? c = some field := by
  have hfield := List.find?_some h
  exact ⟨parent?_of_mem_children (List.mem_of_find?_eq_some h), beq_iff_eq.mp hfield⟩

theorem nodup_children (n : NodeId) : (t.children n).Nodup :=
  t.children_eq_filter n ▸ List.nodup_range.filter _

/-! ## The way up -/

/-- More steps than a node has numbers before it find nothing new. -/
theorem ancestorsWithin_of_le {n steps : Nat} (h : n ≤ steps) :
    t.ancestorsWithin steps n = t.ancestors n := by
  induction n using Nat.strongRecOn generalizing steps with
  | ind n ih =>
    cases hparent : t.parent? n with
    | none => cases steps <;> cases n <;> simp [ancestors, ancestorsWithin, hparent]
    | some p =>
      have hlt := t.parent?_lt hparent
      obtain ⟨m, rfl⟩ : ∃ m, n = m + 1 := Nat.exists_eq_add_one_of_ne_zero (Nat.ne_zero_of_lt hlt)
      obtain ⟨k, rfl⟩ : ∃ k, steps = k + 1 :=
        Nat.exists_eq_add_one_of_ne_zero (Nat.ne_zero_of_lt h)
      have hp : p ≤ m := Nat.le_of_lt_succ hlt
      simp only [ancestors, ancestorsWithin, hparent]
      rw [ih p hlt (Nat.le_trans hp (Nat.le_of_succ_le_succ h)), ih p hlt hp]

theorem ancestors_of_parent? {n p : NodeId} (h : t.parent? n = some p) :
    t.ancestors n = p :: t.ancestors p := by
  have hlt := t.parent?_lt h
  rw [← ancestorsWithin_of_le (Nat.le_succ n), ancestorsWithin, h,
    ← ancestorsWithin_of_le (Nat.le_of_lt hlt)]

theorem ancestors_of_no_parent {n : NodeId} (h : t.parent? n = none) : t.ancestors n = [] := by
  rw [← ancestorsWithin_of_le (Nat.le_succ n), ancestorsWithin, h]

theorem parent?_of_ancestors {n p : NodeId} {above : List NodeId}
    (h : t.ancestors n = p :: above) : t.parent? n = some p ∧ above = t.ancestors p := by
  cases hparent : t.parent? n with
  | none =>
    rw [ancestors_of_no_parent hparent] at h
    cases h
  | some q =>
    rw [ancestors_of_parent? hparent] at h
    obtain ⟨rfl, rfl⟩ := List.cons.inj h
    exact ⟨rfl, rfl⟩

/-- **The nodes above a node end in the nodes above any of them.** -/
theorem ancestors_of_append {n a : NodeId} {between above : List NodeId}
    (h : t.ancestors n = between ++ a :: above) : above = t.ancestors a := by
  induction between generalizing n with
  | nil => exact (parent?_of_ancestors h).2
  | cons b between ih => exact ih (parent?_of_ancestors h).2.symm

theorem exists_between {n a : NodeId} (h : a ∈ t.ancestors n) :
    ∃ between, t.ancestors n = between ++ a :: t.ancestors a := by
  obtain ⟨between, above, heq⟩ := List.append_of_mem h
  exact ⟨between, ancestors_of_append heq ▸ heq⟩

/-- A node is among the first nodes above another exactly if there are fewer in between. -/
theorem mem_take_ancestors_iff {n a : NodeId} {between : List NodeId} {count : Nat}
    (heq : t.ancestors n = between ++ a :: t.ancestors a) :
    a ∈ (t.ancestors n).take count ↔ between.length < count := by
  constructor
  · intro hmem
    by_contra hge
    rw [heq, List.take_append_of_le_length (Nat.le_of_not_lt hge)] at hmem
    obtain ⟨front, back, hbetween⟩ := List.append_of_mem (List.mem_of_mem_take hmem)
    rw [hbetween, List.append_assoc, List.cons_append] at heq
    -- a node does not stand above itself
    have hlength := congrArg List.length (ancestors_of_append heq)
    rw [List.length_append, List.length_cons] at hlength
    omega
  · intro hlt
    refine List.mem_of_getElem? (i := between.length) ?_
    rw [List.getElem?_take_of_lt hlt, heq, List.getElem?_append_right (Nat.le_refl _),
      Nat.sub_self, List.getElem?_cons_zero]

/-- A search upwards passes over what is in between and ends at the first node looked for. -/
theorem find?_ancestors {n a : NodeId} {between above : List NodeId} {p : NodeId → Bool}
    (heq : t.ancestors n = between ++ a :: above) (hbetween : ∀ b ∈ between, p b = false)
    (ha : p a = true) : (t.ancestors n).find? p = some a := by
  have hnone : between.find? p = none :=
    List.find?_eq_none.mpr fun b hb => Bool.eq_false_iff.mp (hbetween b hb)
  rw [heq, List.find?_append, hnone, Option.none_or, List.find?_cons_of_pos ha]

theorem lt_of_mem_ancestors {n a : NodeId} (h : a ∈ t.ancestors n) : a < n := by
  obtain ⟨between, heq⟩ := exists_between h
  clear h
  induction between generalizing n with
  | nil => exact t.parent?_lt (parent?_of_ancestors heq).1
  | cons b between ih =>
    obtain ⟨hparent, hrest⟩ := parent?_of_ancestors heq
    exact Nat.lt_trans (ih hrest.symm) (t.parent?_lt hparent)

theorem lt_of_mem_between {n a b : NodeId} {between above : List NodeId}
    (heq : t.ancestors n = between ++ a :: above) (hb : b ∈ between) : a < b := by
  obtain ⟨before, after, rfl⟩ := List.append_of_mem hb
  rw [List.append_assoc, List.cons_append] at heq
  refine lt_of_mem_ancestors (t := t) ?_
  rw [← ancestors_of_append heq]
  exact List.mem_append_right _ List.mem_cons_self

theorem mem_ancestors_trans {n a b : NodeId} (hab : b ∈ t.ancestors a) (hn : a ∈ t.ancestors n) :
    b ∈ t.ancestors n := by
  obtain ⟨between, heq⟩ := exists_between hn
  rw [heq]
  exact List.mem_append_right _ (List.mem_cons_of_mem _ hab)

theorem length_ancestors_le (n : NodeId) : (t.ancestors n).length ≤ n := by
  induction n using Nat.strongRecOn with
  | ind n ih =>
    cases hparent : t.parent? n with
    | none => simp [ancestors_of_no_parent hparent]
    | some p =>
      have hlt := t.parent?_lt hparent
      rw [ancestors_of_parent? hparent, List.length_cons]
      exact Nat.lt_of_le_of_lt (ih p hlt) hlt

/-! ## The way down -/

variable {enter : NodeId → Bool} {top n : NodeId}

/-- Whatever a walk down meets stands below its top, and below nothing but what it enters. -/
theorem between_of_mem_preorderWithin {height : Nat} (h : n ∈ t.preorderWithin enter height top) :
    n = top ∨ ∃ between, t.ancestors n = between ++ top :: t.ancestors top ∧
      enter top = true ∧ ∀ a ∈ between, enter a = true := by
  induction height generalizing top with
  | zero => cases h
  | succ height ih =>
    rw [preorderWithin] at h
    rcases List.mem_cons.mp h with rfl | h
    · exact .inl rfl
    · split at h
      · next henter =>
        obtain ⟨c, hc, hn⟩ := List.mem_flatMap.mp h
        have hup := ancestors_of_parent? (parent?_of_mem_children hc)
        refine .inr ?_
        rcases ih hn with rfl | ⟨between, heq, hcenter, hbetween⟩
        · exact ⟨[], hup, henter, nofun⟩
        · refine ⟨between ++ [c], by rw [heq, hup, List.append_assoc]; rfl, henter, fun a ha => ?_⟩
          rcases List.mem_append.mp ha with ha | ha
          · exact hbetween a ha
          · rwa [List.mem_singleton.mp ha]
      · cases h

/-- A walk down that goes far enough meets all of that. -/
theorem mem_preorderWithin_of_between {height : Nat} {between : List NodeId}
    (heq : t.ancestors n = between ++ top :: t.ancestors top) (henter : enter top = true)
    (hbetween : ∀ a ∈ between, enter a = true) (hheight : between.length + 1 < height) :
    n ∈ t.preorderWithin enter height top := by
  induction between using List.reverseRecOn generalizing top height with
  | nil =>
    obtain ⟨m, rfl⟩ : ∃ m, height = m + 2 := ⟨height - 2, by simp at hheight; omega⟩
    have hchild := mem_children_of_parent? (parent?_of_ancestors heq).1
    rw [preorderWithin, if_pos henter]
    exact List.mem_cons_of_mem _ (List.mem_flatMap.mpr ⟨n, hchild, List.mem_cons_self⟩)
  | append_singleton between c ih =>
    obtain ⟨m, rfl⟩ : ∃ m, height = m + 1 := ⟨height - 1, by simp at hheight; omega⟩
    rw [List.append_assoc, List.singleton_append] at heq
    have hup := ancestors_of_append heq
    have hchild := mem_children_of_parent? (parent?_of_ancestors hup.symm).1
    rw [preorderWithin, if_pos henter]
    refine List.mem_cons_of_mem _ (List.mem_flatMap.mpr ⟨c, hchild, ?_⟩)
    refine ih (hup ▸ heq) (hbetween c (by simp)) (fun a ha => hbetween a (by simp [ha])) ?_
    rw [List.length_append, List.length_singleton] at hheight
    omega

/-- **A walk down meets what the walks up come from.**  It meets its top, and every other node above
which the top stands, unless something on the way is not entered. -/
theorem mem_preorderWhile_iff (htop : top < t.size) :
    n ∈ t.preorderWhile enter top ↔
      n = top ∨ ∃ between, t.ancestors n = between ++ top :: t.ancestors top ∧
        enter top = true ∧ ∀ a ∈ between, enter a = true := by
  constructor
  · exact between_of_mem_preorderWithin
  · rintro (rfl | ⟨between, heq, henter, hbetween⟩)
    · obtain ⟨m, hm⟩ : ∃ m, t.size = m + 1 :=
        Nat.exists_eq_add_one_of_ne_zero (Nat.ne_zero_of_lt htop)
      rw [preorderWhile, hm, preorderWithin]
      exact List.mem_cons_self
    · refine mem_preorderWithin_of_between heq henter hbetween ?_
      have hlength : between.length + 1 ≤ n := by
        have h := t.length_ancestors_le n
        rw [heq, List.length_append, List.length_cons] at h
        omega
      obtain ⟨p, above, hup⟩ : ∃ p above, t.ancestors n = p :: above := by
        cases between with
        | nil => exact ⟨_, _, heq⟩
        | cons b between => exact ⟨_, _, heq⟩
      exact Nat.lt_of_le_of_lt hlength (t.lt_size_of_parent? (parent?_of_ancestors hup).1)

/-- A subtree holds its top and whatever that stands above. -/
theorem mem_preorder_iff (htop : top < t.size) :
    n ∈ t.preorder top ↔ n = top ∨ top ∈ t.ancestors n := by
  rw [preorder, mem_preorderWhile_iff htop]
  refine or_congr_right ⟨?_, fun h => ?_⟩
  · rintro ⟨between, heq, -⟩
    rw [heq]
    exact List.mem_append_right _ List.mem_cons_self
  · obtain ⟨between, heq⟩ := exists_between h
    exact ⟨between, heq, rfl, fun _ _ => rfl⟩

/-- Whatever a walk down meets, the way up from there passes through its top. -/
theorem path_of_mem_preorderWithin {height : Nat} (h : n ∈ t.preorderWithin enter height top) :
    ∃ way, n :: t.ancestors n = way ++ top :: t.ancestors top := by
  rcases between_of_mem_preorderWithin h with rfl | ⟨between, heq, -⟩
  · exact ⟨[], rfl⟩
  · exact ⟨n :: between, by rw [heq]; rfl⟩

theorem nodup_preorderWithin (enter : NodeId → Bool) (height : Nat) (top : NodeId) :
    (t.preorderWithin enter height top).Nodup := by
  induction height generalizing top with
  | zero => exact .nil
  | succ height ih =>
    rw [preorderWithin]
    split
    · refine List.nodup_cons.mpr ⟨fun h => ?_, List.nodup_flatMap.mpr ⟨fun c _ => ih c, ?_⟩⟩
      · -- the top is not below one of its children
        obtain ⟨c, hc, htop⟩ := List.mem_flatMap.mp h
        have hlt := t.parent?_lt (parent?_of_mem_children hc)
        rcases between_of_mem_preorderWithin htop with rfl | ⟨between, heq, -⟩
        · exact Nat.lt_irrefl _ hlt
        · have hmem : c ∈ t.ancestors top := by simp [heq]
          exact Nat.lt_asymm hlt (lt_of_mem_ancestors hmem)
      · refine (nodup_children top).imp_of_mem fun {c d} hc hd hne n hnc hnd => hne ?_
        -- the ways up from a common node pass through both children at the same distance
        obtain ⟨way, hway⟩ := path_of_mem_preorderWithin hnc
        obtain ⟨way', hway'⟩ := path_of_mem_preorderWithin hnd
        rw [ancestors_of_parent? (parent?_of_mem_children hc)] at hway
        rw [ancestors_of_parent? (parent?_of_mem_children hd)] at hway'
        exact (List.cons.inj (List.append_inj' (hway.symm.trans hway') rfl).2).1
    · exact List.nodup_singleton top

/-- A subtree lists every node once. -/
theorem nodup_preorder (top : NodeId) : (t.preorder top).Nodup := nodup_preorderWithin ..

end SyntaxTree
end CryptoUsage
