import CryptoUsage.Proofs.Arena.Lookup
import Mathlib.Logic.Relation

/-!
# Links between stores

Stores name each other by place: a child its parent and its root, a parent its children, and each
store itself.  `Linked` says that these names agree with each other and that all of them are live,
and that a store keeps no list of children with nothing in it.  Parents stand in front of their
children, so every walk along the links ends, and the tree of a root consists of exactly the
stores that name it (`Linked.under_iff`).

This is the invariant that everything about arenas starts from.  It holds of the empty arena
(`linked_empty`), and whatever a scan does is made of three operations.

## How it is kept

For each operation there are two lemmas about what stands where afterwards, one from what stood
before (`exists_store?_createChild`) and one from what stands there now
(`store?_createChild_cases`); that the operation keeps the links (`Linked.createRoot`,
`Linked.createChild`, `Linked.modify`) is read off these, field by field.  Two of the fields are
the same for every operation: a store that keeps its place is still a root, or still below its
parent (`Linked.root_of_samePlace`, `Linked.parent_of_samePlace`).

Writing to a store keeps the links as long as it leaves them alone.  `Store.KeepsLinks` says so of
a way of writing, and the three that occur have it: giving a site, giving a site with an action,
and filing a value.
-/

set_option autoImplicit false

namespace CryptoUsage

/-- A store is at the same place of a tree as another one. -/
structure Store.SamePlace (old new : Store) : Prop where
  id : new.id = old.id
  level : new.level = old.level
  parent : new.parent = old.parent
  root : new.root = old.root

/-- A way of writing to a store that leaves its links alone. -/
structure Store.KeepsLinks (change : Store → Store) : Prop where
  place : ∀ store, Store.SamePlace store (change store)
  children : ∀ store, (change store).children = store.children

theorem Store.keepsLinks_site (site : Site) :
    Store.KeepsLinks fun store => { store with site := some site } :=
  ⟨fun _ => ⟨rfl, rfl, rfl, rfl⟩, fun _ => rfl⟩

theorem Store.keepsLinks_take (site : Site) (action : Option DetectedValue) :
    Store.KeepsLinks fun store => store.take site action :=
  ⟨fun _ => ⟨rfl, rfl, rfl, rfl⟩, fun _ => rfl⟩

theorem Store.keepsLinks_file (index : Int) (value : DetectedValue) :
    Store.KeepsLinks fun store => store.file index value :=
  ⟨fun _ => ⟨rfl, rfl, rfl, rfl⟩, fun _ => rfl⟩

namespace Arena

variable {arena : Arena}

/-- The links of an arena agree with each other and name live stores. -/
structure Linked (arena : Arena) : Prop where
  /-- A store names the place where it stands. -/
  self : ∀ {id store}, arena.store? id = some store → store.id = id
  /-- A store without parent is at level zero and is its own root. -/
  root : ∀ {id store}, arena.store? id = some store → store.parent = none →
    store.level = 0 ∧ store.root = id
  /-- Any other store stands after its parent, one level below it and in the same tree. -/
  parent : ∀ {id store p i}, arena.store? id = some store → store.parent = some (p, i) →
    p < id ∧ ∃ above, arena.store? p = some above ∧ store.level = above.level + 1 ∧
      store.root = above.root
  /-- A store is filed under its parent at its index, and nowhere else. -/
  child : ∀ {p above i c}, arena.store? p = some above →
    (c ∈ Slots.at above.children i ↔
      ∃ store, arena.store? c = some store ∧ store.parent = some (p, i))
  /-- No list of children is empty. -/
  full : ∀ {id store}, arena.store? id = some store → store.children.IsFull

/-- A store is filed directly under another one. -/
def IsParent (arena : Arena) (p c : StoreId) : Prop :=
  ∃ above i, arena.store? p = some above ∧ c ∈ Slots.at above.children i

/-- A store is another one or below it. -/
def Under (arena : Arena) (top id : StoreId) : Prop := Relation.ReflTransGen arena.IsParent top id

/-! ## The operations keep the links -/

theorem linked_empty : Linked {} := by
  refine ⟨?_, ?_, ?_, ?_, ?_⟩ <;> intros <;> simp_all [store?]

theorem Linked.root_of_samePlace (h : Linked arena) {id : StoreId} {old store : Store}
    (hold : arena.store? id = some old) (hsame : Store.SamePlace old store)
    (hpar : store.parent = none) : store.level = 0 ∧ store.root = id := by
  rw [hsame.level, hsame.root]
  exact h.root hold (hsame.parent ▸ hpar)

/-- A store that stays at its place is still below its parent, if that one stays as well. -/
theorem Linked.parent_of_samePlace {later : Arena} (h : Linked arena)
    (hlater : ∀ {id old}, arena.store? id = some old →
      ∃ store, later.store? id = some store ∧ Store.SamePlace old store)
    {id p : StoreId} {i : Int} {old store : Store} (hold : arena.store? id = some old)
    (hsame : Store.SamePlace old store) (hpar : store.parent = some (p, i)) :
    p < id ∧ ∃ above, later.store? p = some above ∧ store.level = above.level + 1 ∧
      store.root = above.root := by
  obtain ⟨hlt, above, habove, hlevel, hroot⟩ := h.parent hold (hsame.parent ▸ hpar)
  obtain ⟨above', habove', hsame'⟩ := hlater habove
  refine ⟨hlt, above', habove', ?_, ?_⟩
  · rw [hsame.level, hlevel, hsame'.level]
  · rw [hsame.root, hroot, hsame'.root]

theorem Linked.parent_ne_size (h : Linked arena) {id p : StoreId} {i : Int} {store : Store}
    (hid : arena.store? id = some store) (hpar : store.parent = some (p, i)) : p ≠ arena.size := by
  obtain ⟨-, above, habove, -⟩ := h.parent hid hpar
  exact Nat.ne_of_lt (lt_size_of_store? habove)

/-! ### New roots -/

theorem exists_store?_createRoot (rule : RuleId) {id : StoreId} {old : Store}
    (hid : arena.store? id = some old) :
    ∃ store, (arena.createRoot rule).1.store? id = some store ∧ Store.SamePlace old store := by
  rw [store?_createRoot, if_neg (Nat.ne_of_lt (lt_size_of_store? hid))]
  exact ⟨old, hid, rfl, rfl, rfl, rfl⟩

theorem store?_createRoot_cases {rule : RuleId} {id : StoreId} {store : Store}
    (hid : (arena.createRoot rule).1.store? id = some store) :
    (id = arena.size ∧ store = rootStore rule arena.size) ∨ arena.store? id = some store := by
  rw [store?_createRoot] at hid
  split at hid
  · next hnew => exact .inl ⟨hnew, (Option.some.inj hid).symm⟩
  · exact .inr hid

theorem Linked.createRoot (h : Linked arena) (rule : RuleId) :
    Linked (arena.createRoot rule).1 where
  self hid := by
    rcases store?_createRoot_cases hid with ⟨rfl, rfl⟩ | hid
    · rfl
    · exact h.self hid
  root hid hpar := by
    rcases store?_createRoot_cases hid with ⟨rfl, rfl⟩ | hid
    · exact ⟨rfl, rfl⟩
    · exact h.root hid hpar
  parent hid hpar := by
    rcases store?_createRoot_cases hid with ⟨rfl, rfl⟩ | hid
    · simp [rootStore] at hpar
    · exact h.parent_of_samePlace (exists_store?_createRoot rule) hid ⟨rfl, rfl, rfl, rfl⟩ hpar
  child {p above i c} hp := by
    rcases store?_createRoot_cases hp with ⟨rfl, rfl⟩ | hp
    · constructor
      · intro hmem
        simp [rootStore, Slots.at] at hmem
      · rintro ⟨store, hc, hpar⟩
        rcases store?_createRoot_cases hc with ⟨rfl, rfl⟩ | hc
        · simp [rootStore] at hpar
        · exact absurd rfl (h.parent_ne_size hc hpar)
    · rw [h.child hp]
      constructor
      · rintro ⟨store, hc, hpar⟩
        obtain ⟨store', hc', hsame⟩ := exists_store?_createRoot rule hc
        exact ⟨store', hc', hsame.parent.trans hpar⟩
      · rintro ⟨store, hc, hpar⟩
        rcases store?_createRoot_cases hc with ⟨rfl, rfl⟩ | hc
        · simp [rootStore] at hpar
        · exact ⟨store, hc, hpar⟩
  full hid := by
    rcases store?_createRoot_cases hid with ⟨rfl, rfl⟩ | hid
    · exact Slots.isFull_nil
    · exact h.full hid

/-! ### New children -/

section

variable {parent : StoreId} {above : Store}

/-- What stood before stands still. -/
theorem exists_store?_createChild (habove : arena.store? parent = some above) (index : Int)
    (rule : RuleId) (hook : Option HookOrigin) {id : StoreId} {old : Store}
    (hid : arena.store? id = some old) :
    ∃ store, (arena.createChild parent index rule hook).1.store? id = some store ∧
      Store.SamePlace old store := by
  rw [store?_createChild habove, if_neg (Nat.ne_of_lt (lt_size_of_store? hid))]
  split
  · next hp =>
    subst hp
    cases hid.symm.trans habove
    exact ⟨_, rfl, rfl, rfl, rfl, rfl⟩
  · exact ⟨old, hid, rfl, rfl, rfl, rfl⟩

/-- What stands afterwards is the new store or stood before, the parent with one child less. -/
theorem store?_createChild_cases (habove : arena.store? parent = some above) {index : Int}
    {rule : RuleId} {hook : Option HookOrigin} {id : StoreId} {store : Store}
    (hid : (arena.createChild parent index rule hook).1.store? id = some store) :
    (id = arena.size ∧ store = above.under arena.size parent index rule hook) ∨
      ∃ old, arena.store? id = some old ∧ Store.SamePlace old store ∧
        (old.children.IsFull → store.children.IsFull) ∧
        ∀ i c, c ∈ Slots.at store.children i ↔
          c ∈ Slots.at old.children i ∨ (id = parent ∧ i = index ∧ c = arena.size) := by
  rw [store?_createChild habove] at hid
  split at hid
  · next hnew => exact .inl ⟨hnew, (Option.some.inj hid).symm⟩
  · split at hid
    · next hp =>
      obtain rfl := Option.some.inj hid
      refine .inr ⟨above, hp ▸ habove, ⟨rfl, rfl, rfl, rfl⟩, fun hfull => hfull.push _ _, ?_⟩
      intro i c
      rw [Store.adopt, Slots.mem_at_push]
      simp [hp]
    · next hp =>
      exact .inr ⟨store, hid, ⟨rfl, rfl, rfl, rfl⟩, fun hfull => hfull, fun i c => by simp [hp]⟩

theorem Linked.createChild (h : Linked arena) (habove : arena.store? parent = some above)
    (index : Int) (rule : RuleId) (hook : Option HookOrigin) :
    Linked (arena.createChild parent index rule hook).1 where
  self hid := by
    rcases store?_createChild_cases habove hid with ⟨rfl, rfl⟩ | ⟨old, hold, hsame, -⟩
    · rfl
    · exact hsame.id.trans (h.self hold)
  root hid hpar := by
    rcases store?_createChild_cases habove hid with ⟨rfl, rfl⟩ | ⟨old, hold, hsame, -⟩
    · simp [Store.under] at hpar
    · exact h.root_of_samePlace hold hsame hpar
  parent hid hpar := by
    rcases store?_createChild_cases habove hid with ⟨rfl, rfl⟩ | ⟨old, hold, hsame, -⟩
    · obtain ⟨rfl, rfl⟩ := Prod.mk.inj (Option.some.inj hpar)
      obtain ⟨above', habove', hsame⟩ := exists_store?_createChild habove index rule hook habove
      refine ⟨lt_size_of_store? habove, above', habove', ?_, hsame.root.symm⟩
      rw [hsame.level, Store.under]
    · exact h.parent_of_samePlace (exists_store?_createChild habove index rule hook) hold hsame hpar
  child {p store i c} hp := by
    rcases store?_createChild_cases habove hp with ⟨rfl, rfl⟩ | ⟨old, hp, -, -, hchildren⟩
    · constructor
      · intro hmem
        simp [Store.under, Slots.at] at hmem
      · rintro ⟨child, hc, hpar⟩
        rcases store?_createChild_cases habove hc with ⟨rfl, rfl⟩ | ⟨old, hc, hsame, -⟩
        · simp only [Store.under, Option.some.injEq, Prod.mk.injEq] at hpar
          exact absurd hpar.1 (Nat.ne_of_lt (lt_size_of_store? habove))
        · exact absurd rfl (h.parent_ne_size hc (hsame.parent ▸ hpar))
    · rw [hchildren, h.child hp]
      constructor
      · rintro (⟨child, hc, hpar⟩ | ⟨rfl, rfl, rfl⟩)
        · obtain ⟨child', hc', hsame⟩ := exists_store?_createChild habove index rule hook hc
          exact ⟨child', hc', hsame.parent.trans hpar⟩
        · exact ⟨_, store?_createChild_new habove .., rfl⟩
      · rintro ⟨child, hc, hpar⟩
        rcases store?_createChild_cases habove hc with ⟨rfl, rfl⟩ | ⟨old', hc, hsame, -⟩
        · simp only [Store.under, Option.some.injEq, Prod.mk.injEq] at hpar
          exact .inr ⟨hpar.1.symm, hpar.2.symm, rfl⟩
        · exact .inl ⟨old', hc, hsame.parent.symm.trans hpar⟩
  full hid := by
    rcases store?_createChild_cases habove hid with ⟨rfl, rfl⟩ | ⟨old, hold, -, hfull, -⟩
    · exact Slots.isFull_nil
    · exact hfull (h.full hold)

end

/-! ### Writing to a store -/

/-- Writing anything but links keeps the links. -/
theorem Linked.modify (h : Linked arena) (id : StoreId) {change : Store → Store}
    (hchange : Store.KeepsLinks change) : Linked (arena.modify id change) := by
  have hlater : ∀ {j old}, arena.store? j = some old →
      ∃ store, (arena.modify id change).store? j = some store ∧ Store.SamePlace old store := by
    intro j old hj
    rw [store?_modify]
    split
    · exact ⟨_, by rw [hj, Option.map_some], hchange.place _⟩
    · exact ⟨old, hj, rfl, rfl, rfl, rfl⟩
  have hcases : ∀ {j store}, (arena.modify id change).store? j = some store →
      ∃ old, arena.store? j = some old ∧ Store.SamePlace old store ∧
        store.children = old.children := by
    intro j store hj
    rw [store?_modify] at hj
    split at hj
    · obtain ⟨old, hold, rfl⟩ := Option.map_eq_some_iff.mp hj
      exact ⟨old, hold, hchange.place _, hchange.children _⟩
    · exact ⟨store, hj, ⟨rfl, rfl, rfl, rfl⟩, rfl⟩
  refine ⟨?_, ?_, ?_, ?_, ?_⟩
  · intro j store hj
    obtain ⟨old, hold, hsame, -⟩ := hcases hj
    exact hsame.id.trans (h.self hold)
  · intro j store hj hpar
    obtain ⟨old, hold, hsame, -⟩ := hcases hj
    exact h.root_of_samePlace hold hsame hpar
  · intro j store p i hj hpar
    obtain ⟨old, hold, hsame, -⟩ := hcases hj
    exact h.parent_of_samePlace hlater hold hsame hpar
  · intro p store i c hp
    obtain ⟨old, hp, -, hc⟩ := hcases hp
    rw [hc, h.child hp]
    constructor
    · rintro ⟨child, hchild, hpar⟩
      obtain ⟨child', hchild', hsame⟩ := hlater hchild
      exact ⟨child', hchild', hsame.parent.trans hpar⟩
    · rintro ⟨child, hchild, hpar⟩
      obtain ⟨old', hold', hsame, -⟩ := hcases hchild
      exact ⟨old', hold', hsame.parent.symm.trans hpar⟩
  · intro j store hj
    obtain ⟨old, hold, -, hc⟩ := hcases hj
    exact hc ▸ h.full hold

theorem Linked.pushValue (h : Linked arena) (id : StoreId) (index : Int) (value : DetectedValue) :
    Linked (arena.pushValue id index value) :=
  h.modify id (Store.keepsLinks_file index value)

end Arena
end CryptoUsage
