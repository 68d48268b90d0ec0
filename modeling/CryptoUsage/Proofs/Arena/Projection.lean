import CryptoUsage.Proofs.Arena.Checked
import CryptoUsage.Proofs.Arena.Histories
import CryptoUsage.Proofs.Arena.Renaming
import CryptoUsage.Proofs.Arena.Snapshots
import Mathlib.Data.List.Nodup

/-!
# Snapshots of stores

A snapshot of a store has one node for each store below it, with what that store holds.  The search
for detections and the snapshot go down, and the way from a store to its root goes up; what relates
them is the list of the stores below a store (`Arena.subtree`), each before its children.  It has
every store once (`WellFormed.nodup_subtree`), namely those whose way up leads through the top
(`Linked.mem_subtree_iff`), and the nodes of the snapshot are the snapshots of these stores, in the
same order (`Linked.nodes_project`).

Children stand behind their parents, so proofs go from the last store to the first: what holds of
a store whenever it holds of its children holds of every live store (`Linked.downward`).  The
functions that go down count their steps, and a store at place `k` has fewer than `size - k`
levels below it; so any two counts that are large enough give the same
(`Linked.subtreeWithin_congr`), and with that the recursions lose their counts:
`Linked.subtree_eq` and `Linked.project_eq` say what they give for a store from what they give for
its children.  Everything else rests on these two.

That nothing is in a subtree twice takes both directions of the links: a child is in one list of its
parent, once (`WellFormed.nodup_items`), and no store is below two children of the same store, since
it has one parent (`Linked.eq_of_under_under`).

Of the values nothing is lost or made up on the way: those of a snapshot are what the stores of the
subtree hold (`Linked.allValues_project`), so a detection is found exactly if a snapshot has a value
(`Linked.hasDetections_iff_allValues`).
-/

set_option autoImplicit false

namespace CryptoUsage

/-- What a store itself holds: its action and its values. -/
def Store.holdings (store : Store) : List DetectedValue :=
  store.action.toList ++ store.values.items

theorem Store.holdings_ne_nil {store : Store} :
    store.holdings ≠ [] ↔ store.isDetection = true := by
  cases haction : store.action <;> simp [holdings, isDetection, haction, Slots.hasItems_iff]

namespace Arena

variable (arena : Arena)

/-- What is held at a place. -/
def holdings (id : StoreId) : List DetectedValue :=
  ((arena.store? id).map (·.holdings)).getD []

/-- The children of a store, by index. -/
def childrenOf (id : StoreId) : List StoreId :=
  ((arena.store? id).map (·.children.items)).getD []

/-- A store and the stores at most `height` levels below it, depth first. -/
def subtreeWithin : Nat → StoreId → List StoreId
  | 0, id => [id]
  | height + 1, id => id :: (arena.childrenOf id).flatMap (subtreeWithin height)

/-- A store and the stores below it, depth first.  No tree is higher than the number of stores. -/
def subtree (id : StoreId) : List StoreId := arena.subtreeWithin arena.size id

variable {arena}

/-! ## Going down -/

/-- A child stands behind its parent. -/
theorem Linked.of_mem_children (h : Linked arena) {id : Nat} {store : Store} {c : Nat}
    (hid : arena.store? id = some store) (hmem : c ∈ store.children.items) :
    arena.IsParent id c ∧ id < c ∧ c < arena.size := by
  obtain ⟨i, hmem⟩ := Slots.mem_items.mp hmem
  obtain ⟨below, hbelow, -⟩ := (h.child hid).mp hmem
  have hparent : arena.IsParent id c := ⟨store, i, hid, hmem⟩
  exact ⟨hparent, h.lt_of_isParent hparent, lt_size_of_store? hbelow⟩

/-- What holds of a store whenever it holds of its children holds of every live store. -/
theorem Linked.downward (h : Linked arena) {P : StoreId → Prop}
    (hstep : ∀ {id store}, arena.store? id = some store →
      (∀ child ∈ store.children.items, P child) → P id) {id : Nat} (hid : id < arena.size) :
    P id := by
  -- by the number of stores behind
  induction hbehind : arena.size - id using Nat.strongRecOn generalizing id with
  | ind behind ih =>
    obtain ⟨store, hstore⟩ := exists_store? hid
    refine hstep hstore fun c hmem => ?_
    obtain ⟨-, hafter, hc⟩ := h.of_mem_children hstore hmem
    exact ih (arena.size - c) (by omega) hc rfl

theorem Linked.subtreeWithin_congr (h : Linked arena) {id : Nat} (height height' : Nat)
    (hid : id < arena.size) (hheight : arena.size ≤ id + height)
    (hheight' : arena.size ≤ id + height') :
    arena.subtreeWithin height id = arena.subtreeWithin height' id := by
  induction height generalizing id height' with
  | zero => omega
  | succ height ih =>
    obtain ⟨height', rfl⟩ : ∃ k, height' = k + 1 := ⟨height' - 1, by omega⟩
    obtain ⟨store, hstore⟩ := exists_store? hid
    rw [subtreeWithin, subtreeWithin]
    congr 1
    refine List.flatMap_congr fun c hc => ?_
    rw [childrenOf, hstore] at hc
    obtain ⟨-, hafter, hc⟩ := h.of_mem_children hstore hc
    exact ih height' hc (by omega) (by omega)

section

variable {id : Nat} {store : Store}

/-- A store is followed by the subtrees of its children. -/
theorem Linked.subtree_eq (h : Linked arena) (hid : arena.store? id = some store) :
    arena.subtree id = id :: store.children.items.flatMap arena.subtree := by
  obtain ⟨height, hsize⟩ :=
    Nat.exists_eq_add_one_of_ne_zero (Nat.ne_zero_of_lt (lt_size_of_store? hid))
  rw [subtree, hsize, subtreeWithin, childrenOf, hid]
  congr 1
  refine List.flatMap_congr fun c hc => ?_
  obtain ⟨-, hafter, hc⟩ := h.of_mem_children hid hc
  exact h.subtreeWithin_congr _ _ hc (by omega) (by omega)

/-- A snapshot has what the store holds, and the snapshots of its children where these are filed. -/
theorem Linked.project_eq (h : Linked arena) (hid : arena.store? id = some store) :
    arena.project id = .node store.rule store.action store.values
      (store.children.mapItems arena.project) := by
  obtain ⟨height, hsize⟩ :=
    Nat.exists_eq_add_one_of_ne_zero (Nat.ne_zero_of_lt (lt_size_of_store? hid))
  rw [project, hsize, projectWithin, hid, Option.getD_some]
  congr 1
  refine Slots.mapItems_congr fun c hmem => ?_
  obtain ⟨-, hafter, hc⟩ := h.of_mem_children hid hmem
  obtain ⟨below, hbelow⟩ := exists_store? hc
  exact h.projectWithin_congr height arena.size hbelow (by omega) (by omega)

end

/-! ## Below and above -/

theorem Linked.parent_unique (h : Linked arena) {p q c : StoreId} (hp : arena.IsParent p c)
    (hq : arena.IsParent q c) : p = q := by
  obtain ⟨store, i, hc, hpar⟩ := h.isParent_iff.mp hp
  obtain ⟨store', i', hc', hpar'⟩ := h.isParent_iff.mp hq
  cases hc.symm.trans hc'
  exact congrArg Prod.fst (Option.some.inj (hpar.symm.trans hpar'))

/-- The subtree of a store is what is below it. -/
theorem Linked.mem_subtree (h : Linked arena) {id j : StoreId} (hid : id < arena.size) :
    j ∈ arena.subtree id ↔ arena.Under id j := by
  refine h.downward (P := fun id => j ∈ arena.subtree id ↔ arena.Under id j) ?_ hid
  intro id store hstore ih
  rw [h.subtree_eq hstore, List.mem_cons, List.mem_flatMap, Under,
    Relation.ReflTransGen.cases_head_iff, eq_comm]
  refine or_congr_right ⟨?_, ?_⟩
  · rintro ⟨c, hc, hj⟩
    exact ⟨c, (h.of_mem_children hstore hc).1, (ih c hc).mp hj⟩
  · rintro ⟨c, ⟨above, i, habove, hmem⟩, hunder⟩
    cases hstore.symm.trans habove
    have hc : c ∈ store.children.items := Slots.mem_items.mpr ⟨i, hmem⟩
    exact ⟨c, hc, (ih c hc).mpr hunder⟩

/-- A store is below another one if its way up leads through that one. -/
theorem Linked.under_iff_mem_ancestry (h : Linked arena) {top id : StoreId} :
    ∀ {store : Store}, arena.store? id = some store →
      (arena.Under top id ↔ top ∈ arena.ancestry id) := by
  induction id using Nat.strongRecOn with
  | ind id ih =>
    intro store hid
    rw [Under, Relation.ReflTransGen.cases_tail_iff, h.ancestry_eq hid, List.mem_cons,
      eq_comm (a := id)]
    refine or_congr_right ?_
    cases hpar : store.parent with
    | none =>
      simp only [List.not_mem_nil, iff_false]
      rintro ⟨p, -, hp⟩
      obtain ⟨store', i, hid', hpar'⟩ := h.isParent_iff.mp hp
      cases hid.symm.trans hid'
      rw [hpar] at hpar'
      cases hpar'
    | some above =>
      obtain ⟨p, i⟩ := above
      obtain ⟨hlt, above, habove, -⟩ := h.parent hid hpar
      have hp : arena.IsParent p id := h.isParent_iff.mpr ⟨store, i, hid, hpar⟩
      simp only [← ih p hlt habove]
      constructor
      · rintro ⟨q, hunder, hq⟩
        exact h.parent_unique hp hq ▸ hunder
      · exact fun hunder => ⟨p, hunder, hp⟩

/-- What is below a live store is live. -/
theorem Linked.exists_store?_of_under (h : Linked arena) {id j : StoreId} (hid : id < arena.size)
    (hunder : arena.Under id j) : ∃ store, arena.store? j = some store := by
  obtain ⟨top, htop⟩ := exists_store? hid
  obtain ⟨store, hstore, -⟩ := h.root_of_under htop hunder
  exact ⟨store, hstore⟩

/-- **The subtree of a store** is what leads through it on the way up. -/
theorem Linked.mem_subtree_iff (h : Linked arena) {id j : StoreId} (hid : id < arena.size) :
    j ∈ arena.subtree id ↔ id ∈ arena.ancestry j := by
  rw [h.mem_subtree hid]
  constructor
  · intro hunder
    obtain ⟨below, hbelow⟩ := h.exists_store?_of_under hid hunder
    exact (h.under_iff_mem_ancestry hbelow).mp hunder
  · intro hmem
    obtain ⟨below, hbelow⟩ := exists_store?_of_mem_ancestry hmem
    exact (h.under_iff_mem_ancestry hbelow).mpr hmem

/-- No store is below two children of one store. -/
theorem Linked.eq_of_under_under (h : Linked arena) {p c c' j : StoreId} (hc : arena.IsParent p c)
    (hc' : arena.IsParent p c') (hj : arena.Under c j) (hj' : arena.Under c' j) : c = c' := by
  -- a child is not below another one: its parent would be
  have hapart : ∀ {q c c'}, arena.IsParent p c → arena.IsParent p c' → arena.IsParent q c →
      ¬ arena.Under c' q := by
    intro q c c' hc hc' hq hunder
    obtain rfl := h.parent_unique hc hq
    exact absurd (h.lt_of_isParent hc') (Nat.not_lt_of_le (h.le_of_under hunder))
  induction hj with
  | refl =>
    rcases Relation.ReflTransGen.cases_tail hj' with heq | ⟨q, hunder, hq⟩
    · exact heq
    · exact absurd hunder (hapart hc hc' hq)
  | tail hunder hstep ih =>
    rcases Relation.ReflTransGen.cases_tail hj' with rfl | ⟨q, hunder', hq⟩
    · exact absurd hunder (hapart hc' hc hstep)
    · exact ih (h.parent_unique hstep hq ▸ hunder')

/-- A child is filed once. -/
theorem WellFormed.nodup_items (h : WellFormed arena) {id : StoreId} {store : Store}
    (hid : arena.store? id = some store) : store.children.items.Nodup := by
  have hsorted := h.children hid
  refine List.nodup_flatMap.mpr ⟨fun entry hentry => ?_, ?_⟩
  · exact (hsorted.lists entry hentry).imp Nat.ne_of_lt
  · refine hsorted.keys.imp_of_mem fun {a b} ha hb hab => ?_
    refine List.disjoint_left.mpr fun c hca hcb => ?_
    -- its parent link has one index
    obtain ⟨below, hbelow, hpar⟩ := (h.linked.child hid).mp (Slots.mem_at.mpr ⟨a.2, ha, hca⟩)
    obtain ⟨below', hbelow', hpar'⟩ := (h.linked.child hid).mp (Slots.mem_at.mpr ⟨b.2, hb, hcb⟩)
    cases hbelow.symm.trans hbelow'
    have hindex : a.1 = b.1 := congrArg Prod.snd (Option.some.inj (hpar.symm.trans hpar'))
    exact absurd hindex (Int.ne_of_lt hab)

/-- No store is twice in a subtree. -/
theorem WellFormed.nodup_subtree (h : WellFormed arena) {id : StoreId} (hid : id < arena.size) :
    (arena.subtree id).Nodup := by
  refine h.linked.downward (P := fun id => (arena.subtree id).Nodup) ?_ hid
  intro id store hstore ih
  have hbelow : ∀ c ∈ store.children.items, ∀ j ∈ arena.subtree c, arena.Under c j :=
    fun c hc j hj => (h.linked.mem_subtree (h.linked.of_mem_children hstore hc).2.2).mp hj
  rw [h.linked.subtree_eq hstore]
  refine List.nodup_cons.mpr ⟨fun hmem => ?_, List.nodup_flatMap.mpr ⟨ih, ?_⟩⟩
  · obtain ⟨c, hc, hunder⟩ := List.mem_flatMap.mp hmem
    have hle := h.linked.le_of_under (hbelow c hc id hunder)
    exact absurd (h.linked.of_mem_children hstore hc).2.1 (Nat.not_lt_of_le hle)
  · refine (h.nodup_items hstore).imp_of_mem fun {a b} ha hb hab => ?_
    refine List.disjoint_left.mpr fun j hja hjb => hab ?_
    exact h.linked.eq_of_under_under (h.linked.of_mem_children hstore ha).1
      (h.linked.of_mem_children hstore hb).1 (hbelow a ha j hja) (hbelow b hb j hjb)

/-! ## Snapshots -/

/-- **A snapshot has one node for each store of the subtree**, in the same order. -/
theorem Linked.nodes_project (h : Linked arena) {id : StoreId} (hid : id < arena.size) :
    (arena.project id).nodes = (arena.subtree id).map arena.project := by
  refine h.downward
    (P := fun id => (arena.project id).nodes = (arena.subtree id).map arena.project) ?_ hid
  intro id store hstore ih
  rw [h.subtree_eq hstore, List.map_cons, h.project_eq hstore, FindingNode.nodes_node,
    List.map_flatMap, Slots.items_mapItems, List.flatMap_map]
  congr 1
  exact List.flatMap_congr ih

theorem Linked.holdings_eq (h : Linked arena) {id : StoreId} (hid : id < arena.size) :
    (arena.project id).action.toList ++ (arena.project id).values.items = arena.holdings id := by
  obtain ⟨store, hstore⟩ := exists_store? hid
  rw [h.project_eq hstore, holdings, hstore]
  rfl

/-- The values of a snapshot are what the stores of the subtree hold, depth first. -/
theorem Linked.allValues_project (h : Linked arena) {id : StoreId} (hid : id < arena.size) :
    (arena.project id).allValues = (arena.subtree id).flatMap arena.holdings := by
  rw [FindingNode.allValues_eq, h.nodes_project hid, List.flatMap_map]
  refine List.flatMap_congr fun j hj => h.holdings_eq ?_
  obtain ⟨below, hbelow⟩ := h.exists_store?_of_under hid ((h.mem_subtree hid).mp hj)
  exact lt_size_of_store? hbelow

/-- There is a detection in a store or below it exactly if its snapshot has a value. -/
theorem Linked.hasDetections_iff_allValues (h : Linked arena) {id : StoreId}
    (hid : id < arena.size) :
    arena.hasDetections id = true ↔ (arena.project id).allValues ≠ [] := by
  rw [h.hasDetections_iff, h.allValues_project hid, ne_eq, List.flatMap_eq_nil_iff, not_forall]
  refine exists_congr fun j => ?_
  rw [Classical.not_imp, h.mem_subtree hid]
  constructor
  · rintro ⟨store, hunder, hstore, hdetection⟩
    exact ⟨hunder, by rw [holdings, hstore]; exact Store.holdings_ne_nil.mpr hdetection⟩
  · rintro ⟨hunder, hholdings⟩
    obtain ⟨store, hstore⟩ := h.exists_store?_of_under hid hunder
    rw [holdings, hstore] at hholdings
    exact ⟨store, hunder, hstore, Store.holdings_ne_nil.mp hholdings⟩

/-- **Snapshots are faithful.**  The search for detections and the snapshot of a live store end, and
look up no store that is not there.  The snapshot has one node for each store whose way up leads
through the top, each before the nodes of its children, with what the store holds and with its
children where they are filed.  There is a detection exactly if the snapshot has a value, and its
values are what the stores hold, depth first.  Findings say the same if their snapshots are equal
node by node. -/
theorem Reachable.snapshot_is_faithful (hreachable : Reachable arena) {id : StoreId}
    (hid : id < arena.size) :
    (arena.project? id = some (arena.project id) ∧
      arena.hasDetections? id = some (arena.hasDetections id)) ∧
    ((arena.subtree id).Nodup ∧ (∀ j, j ∈ arena.subtree id ↔ id ∈ arena.ancestry j) ∧
      (arena.project id).nodes = (arena.subtree id).map arena.project ∧
      ∀ j ∈ arena.subtree id, ∃ store, arena.store? j = some store ∧
        arena.subtree j = j :: store.children.items.flatMap arena.subtree ∧
        arena.project j = .node store.rule store.action store.values
          (store.children.mapItems arena.project)) ∧
    (arena.hasDetections id = true ↔ (arena.project id).allValues ≠ []) ∧
    (arena.project id).allValues = (arena.subtree id).flatMap (fun j =>
      ((arena.store? j).map fun store => store.action.toList ++ store.values.items).getD []) ∧
    Equivalence (fun a b : Finding => a.same b = true) ∧
    ∀ a b : Finding, a.same b = true ↔
      ∀ path, (a.root.at? path).map (·.label) = (b.root.at? path).map (·.label) := by
  have hwell := hreachable.wellFormed
  have h := hwell.linked
  obtain ⟨store, hstore⟩ := exists_store? hid
  refine ⟨⟨h.project?_eq hstore, h.hasDetections?_eq hstore⟩,
    ⟨hwell.nodup_subtree hid, fun j => h.mem_subtree_iff hid, h.nodes_project hid, fun j hj => ?_⟩,
    h.hasDetections_iff_allValues hid, h.allValues_project hid, ?_, fun a b => ?_⟩
  · obtain ⟨below, hbelow⟩ := h.exists_store?_of_under hid ((h.mem_subtree hid).mp hj)
    exact ⟨below, hbelow, h.subtree_eq hbelow, h.project_eq hbelow⟩
  · simp only [Finding.same, beq_iff_eq]
    exact ⟨fun a => rfl, Eq.symm, Eq.trans⟩
  · rw [Finding.same, beq_iff_eq]
    exact FindingNode.eq_iff_label_at?

namespace Filed

/-- The value with a text. -/
def valueOf (kind : ValueKind) (value : String) : DetectedValue :=
  { kind, value, location := { line := 1, column := 1, startByte := 0, endByte := 8 } }

/-- A call, the mode that a rule finds from it, and its key, which is moved before the mode. -/
def operations : List Operation := [
  .createRoot 0,
  .receiveMethod 0 (.invocation 2) (some (valueOf .action "call")),
  .createChild 0 1 1 none,
  .receiveValue 1 0 none (valueOf .mode "CBC"),
  .receiveValue 0 2 (some 0) (valueOf .keySize "128")]

/-- What becomes of the empty arena. -/
def filed : Arena := operations.foldl Operation.run {}

theorem reachable : filed.Reachable := by
  have hempty : Reachable {} := .refl
  have hroot := hempty.tail ⟨.createRoot 0, trivial, rfl⟩
  have hcall := hroot.tail ⟨.receiveMethod 0 (.invocation 2) (some (valueOf .action "call")),
    show 0 < _ by decide +kernel, rfl⟩
  have hchild := hcall.tail ⟨.createChild 0 1 1 none, show 0 < _ by decide +kernel, rfl⟩
  have hmode := hchild.tail
    ⟨.receiveValue 1 0 none (valueOf .mode "CBC"), show 1 < _ by decide +kernel, rfl⟩
  exact hmode.tail
    ⟨.receiveValue 0 2 (some 0) (valueOf .keySize "128"), show 0 < _ by decide +kernel, rfl⟩

end Filed

open Filed in
/-- The key was filed last, and its snapshot is the first below the call. -/
theorem snapshot_is_in_order : filed.Reachable ∧ 0 < filed.size ∧
    filed.subtree 0 = [0, 2, 1] ∧ filed.hasDetections 0 = true ∧
    (filed.project 0).allValues =
      [valueOf .action "call", valueOf .keySize "128", valueOf .mode "CBC"] := by
  have hlive : 0 < filed.size := by decide +kernel
  obtain ⟨-, -, hdetections, hvalues, -⟩ := reachable.snapshot_is_faithful hlive
  have hall : (filed.project 0).allValues =
      [valueOf .action "call", valueOf .keySize "128", valueOf .mode "CBC"] :=
    hvalues.trans (by decide +kernel)
  refine ⟨reachable, hlive, by decide +kernel, hdetections.mpr ?_, hall⟩
  rw [hall]
  exact List.cons_ne_nil _ _

end Arena
end CryptoUsage
