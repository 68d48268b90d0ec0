import CryptoUsage.Catalog.Rule
import Mathlib.Data.Finset.Lattice.Fold
import Mathlib.Order.Lattice.Nat

/-!
# How deep the rules of a catalog go

A rule refers to other rules: to those that are followed when it matches, and to those that a
parameter depends on.  In a catalog these stand before it.  So a chain of rules, each of which
refers to the next one, comes to an end, and the depth of a rule is the length of the longest
chain that starts with it (`isGreatest_depth`).

The depth is what bounds how evaluations are nested: each level of a tree of stores follows a
reference, so a tree is no deeper than the rule of its root.

## What is here

* `depth` is computed along the references by recursion on the place of the rule, which is where
  it is used that references go to earlier rules.  `depth_of_some` is its equation, and
  `depth_lt_of_mem_references` the consequence that is used outside: a rule is deeper than those
  that it refers to.
* Its bound.  A rule is no deeper than there are rules before it (`depth_le`), hence less deep
  than the catalog has rules.
* Chains.  Along a chain the depth goes down with every reference (`Chain.add_depth_le`), and
  there is a chain that is as long (`exists_chain`): from the reference at which the maximum is
  attained, by induction.
-/

set_option autoImplicit false

namespace CryptoUsage

namespace Rule

/-- A rule refers to its next rules and to those that depend on its parameters. -/
theorem mem_references_iff {rule : Rule} {id : RuleId} :
    id ∈ rule.references ↔ id ∈ rule.next ∨
      ∃ parameter ∈ rule.parameters, ∃ rules, parameter.role = .depending rules ∧ id ∈ rules := by
  rw [references, List.mem_append, List.mem_flatMap]
  refine or_congr_right (exists_congr fun parameter => and_congr_right fun _ => ?_)
  rw [Parameter.references]
  cases parameter.role <;> simp

end Rule

namespace Catalog

variable (catalog : Catalog)

/-- How many references can be followed in a row from a rule. -/
def depth (id : RuleId) : Nat :=
  match h : catalog.rule? id with
  | none => 0
  | some rule => rule.references.attach.toFinset.sup fun next => depth next.val + 1
termination_by id
decreasing_by exact lt_of_mem_references h next.property

/-- Following so many references in a row leads from one rule to another. -/
inductive Chain : RuleId → RuleId → Nat → Prop
  | nil (id : RuleId) : Chain id id 0
  | cons {id next last : RuleId} {rule : Rule} {length : Nat}
      (rule_eq : catalog.rule? id = some rule) (refers : next ∈ rule.references)
      (chain : Chain next last length) : Chain id last (length + 1)

variable {catalog} {id next last : RuleId} {rule : Rule} {length : Nat}

theorem depth_of_none (h : catalog.rule? id = none) : catalog.depth id = 0 := by
  rw [depth]
  split
  · rfl
  · next hrule => rw [h] at hrule; cases hrule

theorem depth_of_some (h : catalog.rule? id = some rule) :
    catalog.depth id =
      rule.references.attach.toFinset.sup fun next => catalog.depth next.val + 1 := by
  rw [depth]
  split
  · next hnone => rw [h] at hnone; cases hnone
  · next hrule =>
    obtain rfl := Option.some.inj (h.symm.trans hrule)
    rfl

/-- A rule is deeper than those that it refers to. -/
theorem depth_lt_of_mem_references (h : catalog.rule? id = some rule)
    (hnext : next ∈ rule.references) : catalog.depth next < catalog.depth id := by
  rw [depth_of_some h]
  exact Finset.le_sup (f := fun next : {next // next ∈ rule.references} =>
    catalog.depth next.val + 1) (List.mem_toFinset.mpr (List.mem_attach _ ⟨next, hnext⟩))

/-- No rule is deeper than there are rules before it. -/
theorem depth_le (catalog : Catalog) (id : RuleId) : catalog.depth id ≤ id := by
  induction id using Nat.strongRecOn with
  | ind id ih =>
    cases h : catalog.rule? id with
    | none =>
      rw [depth_of_none h]
      exact Nat.zero_le id
    | some rule =>
      rw [depth_of_some h]
      refine Finset.sup_le fun next _ => ?_
      have hlt := lt_of_mem_references h next.property
      exact Nat.succ_le_of_lt (Nat.lt_of_le_of_lt (ih next.val hlt) hlt)

theorem depth_lt_size (h : catalog.rule? id = some rule) : catalog.depth id < catalog.size :=
  Nat.lt_of_le_of_lt (depth_le catalog id) (Array.getElem?_eq_some_iff.mp h).1

theorem depth_le_size (catalog : Catalog) (id : RuleId) : catalog.depth id ≤ catalog.size := by
  cases h : catalog.rule? id with
  | none =>
    rw [depth_of_none h]
    exact Nat.zero_le _
  | some rule => exact Nat.le_of_lt (depth_lt_size h)

/-- Along a chain the depth goes down with every reference. -/
theorem Chain.add_depth_le (h : catalog.Chain id last length) :
    length + catalog.depth last ≤ catalog.depth id := by
  induction h with
  | nil id => rw [Nat.zero_add]
  | cons rule_eq refers _ ih =>
    have hlt := depth_lt_of_mem_references rule_eq refers
    omega

/-- There is a chain as long as a rule is deep. -/
theorem exists_chain (catalog : Catalog) (id : RuleId) :
    ∃ last, catalog.Chain id last (catalog.depth id) := by
  induction id using Nat.strongRecOn with
  | ind id ih =>
    cases h : catalog.rule? id with
    | none =>
      rw [depth_of_none h]
      exact ⟨id, .nil id⟩
    | some rule =>
      rw [depth_of_some h]
      rcases rule.references.attach.toFinset.eq_empty_or_nonempty with hempty | hsome
      · rw [hempty, Finset.sup_empty]
        exact ⟨id, .nil id⟩
      · obtain ⟨next, -, heq⟩ := Finset.exists_mem_eq_sup _ hsome fun next :
          {next // next ∈ rule.references} => catalog.depth next.val + 1
        obtain ⟨last, hchain⟩ := ih next.val (lt_of_mem_references h next.property)
        rw [heq]
        exact ⟨last, .cons h next.property hchain⟩

/-- **The depth of a rule is the length of the longest chain from it.** -/
theorem isGreatest_depth (catalog : Catalog) (id : RuleId) :
    IsGreatest {length | ∃ last, catalog.Chain id last length} (catalog.depth id) :=
  ⟨exists_chain catalog id, fun length ⟨_, hchain⟩ =>
    Nat.le_trans (Nat.le_add_right length _) hchain.add_depth_le⟩

end Catalog
end CryptoUsage
