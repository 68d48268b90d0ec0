import CryptoUsage.Proofs.Arena.Trees

/-!
# Arenas only grow

Apart from throwing the last stores away, every operation adds to an arena and takes nothing back:
a store keeps its place in its tree, its rule, and the site it matched, and what is filed in it is
only added to, at the end of what is there under the same index.  `Grows` says this of two stores
and of two arenas.

It is a preorder, so it goes along any number of operations, and most of what is said about "the
rest of a scan" is said by it: what was detected stays detected (`Grows.detects`), stores stay
live (`Grows.size_le`), the way up from a store stays the same (`Proofs/Arena/Ancestry`), and a
snapshot is completed by later ones (`Proofs/Arena/Completing`).

## What is here

* Lists by index: the list at every index is a prefix of what it is after something is added
  (`at_prefix_push`, `at_prefix_pushNew`).
* Stores: taking in a child, being given a site, filing a value (`Store.grows_adopt`,
  `Store.grows_take`, `Store.grows_file`).  A site is given only to a store that has none, which
  is the hypothesis of the second.
* Arenas: the operations, by looking up what stands where afterwards (`grows_createRoot`,
  `grows_createChild`, `grows_modify`).  Making a child is a new store and one more child of its
  parent.
-/

set_option autoImplicit false

namespace CryptoUsage

namespace Slots

variable {α : Type}

theorem at_prefix_push (slots : Slots α) (index : Int) (item : α) (i : Int) :
    Slots.at slots i <+: Slots.at (slots.push index item) i := by
  by_cases hi : i = index
  · subst hi
    exact ⟨[item], (at_push_self ..).symm⟩
  · exact ⟨[], by rw [at_push_of_ne hi, List.append_nil]⟩

theorem at_prefix_pushNew [BEq α] (slots : Slots α) (index : Int) (item : α) (i : Int) :
    Slots.at slots i <+: Slots.at (slots.pushNew index item) i := by
  by_cases hi : i = index
  · subst hi
    rw [at_pushNew_self]
    split
    · exact List.prefix_rfl
    · exact List.prefix_append ..
  · exact ⟨[], by rw [at_pushNew_of_ne hi, List.append_nil]⟩

end Slots

namespace Store

/-- A store as it is later. -/
structure Grows (old new : Store) : Prop where
  level : new.level = old.level
  rule : new.rule = old.rule
  parent : new.parent = old.parent
  root : new.root = old.root
  hook : new.hook = old.hook
  /-- A matched site stays. -/
  site : ∀ {site}, old.site = some site → new.site = some site
  /-- Once a site matched, the action is settled. -/
  settled : old.site ≠ none → new.action = old.action
  action : ∀ {value}, old.action = some value → new.action = some value
  values : ∀ i, Slots.at old.values i <+: Slots.at new.values i
  children : ∀ i, Slots.at old.children i <+: Slots.at new.children i

theorem Grows.refl (store : Store) : store.Grows store :=
  ⟨rfl, rfl, rfl, rfl, rfl, fun h => h, fun _ => rfl, fun h => h, fun _ => List.prefix_rfl,
    fun _ => List.prefix_rfl⟩

theorem Grows.trans {a b c : Store} (hab : a.Grows b) (hbc : b.Grows c) : a.Grows c where
  level := hbc.level.trans hab.level
  rule := hbc.rule.trans hab.rule
  parent := hbc.parent.trans hab.parent
  root := hbc.root.trans hab.root
  hook := hbc.hook.trans hab.hook
  site h := hbc.site (hab.site h)
  settled h := by
    obtain ⟨site, hsite⟩ := Option.ne_none_iff_exists'.mp h
    exact (hbc.settled (by simp [hab.site hsite])).trans (hab.settled h)
  action h := hbc.action (hab.action h)
  values i := (hab.values i).trans (hbc.values i)
  children i := (hab.children i).trans (hbc.children i)

theorem grows_adopt (store : Store) (index : Int) (child : StoreId) :
    store.Grows (store.adopt index child) :=
  { Grows.refl store with children := Slots.at_prefix_push store.children index child }

theorem grows_take {store : Store} (hsite : store.site = none) (haction : store.action = none)
    (site : Site) (action : Option DetectedValue) : store.Grows (store.take site action) where
  level := rfl
  rule := rfl
  parent := rfl
  root := rfl
  hook := rfl
  site h := by rw [hsite] at h; cases h
  settled h := absurd hsite h
  action h := by rw [haction] at h; cases h
  values _ := List.prefix_rfl
  children _ := List.prefix_rfl

theorem grows_file (store : Store) (index : Int) (value : DetectedValue) :
    store.Grows (store.file index value) :=
  { Grows.refl store with values := Slots.at_prefix_pushNew store.values index value }

theorem Grows.isDetection {old new : Store} (h : old.Grows new) (hd : old.isDetection = true) :
    new.isDetection = true := by
  rw [Store.isDetection, Bool.or_eq_true_iff] at hd ⊢
  rcases hd with hd | hd
  · obtain ⟨value, hvalue⟩ := Option.isSome_iff_exists.mp hd
    exact .inl (by rw [h.action hvalue]; rfl)
  · rw [Slots.hasItems_iff] at hd ⊢
    obtain ⟨value, hvalue⟩ := List.exists_mem_of_ne_nil _ hd
    obtain ⟨i, hold⟩ := Slots.mem_items.mp hvalue
    exact .inr (List.ne_nil_of_mem (Slots.mem_items.mpr ⟨i, (h.values i).subset hold⟩))

end Store

namespace Arena

variable {a b c : Arena}

/-- An arena as it is later: every store is still there and has grown. -/
def Grows (a b : Arena) : Prop :=
  ∀ ⦃id store⦄, a.store? id = some store → ∃ store', b.store? id = some store' ∧ store.Grows store'

theorem Grows.refl (a : Arena) : a.Grows a := fun _ _ h => ⟨_, h, .refl _⟩

theorem Grows.trans (hab : a.Grows b) (hbc : b.Grows c) : a.Grows c := by
  intro id store h
  obtain ⟨store', h', hg⟩ := hab h
  obtain ⟨store'', h'', hg'⟩ := hbc h'
  exact ⟨store'', h'', hg.trans hg'⟩

theorem grows_createRoot (a : Arena) (rule : RuleId) : a.Grows (a.createRoot rule).1 := by
  intro id store h
  rw [store?_createRoot, if_neg (Nat.ne_of_lt (lt_size_of_store? h))]
  exact ⟨store, h, .refl store⟩

theorem grows_createChild {parent : StoreId} {above : Store} (h : a.store? parent = some above)
    (index : Int) (rule : RuleId) (hook : Option HookOrigin) :
    a.Grows (a.createChild parent index rule hook).1 := by
  intro id store hid
  rw [store?_createChild h, if_neg (Nat.ne_of_lt (lt_size_of_store? hid))]
  split
  · next hp =>
    subst hp
    cases hid.symm.trans h
    exact ⟨_, rfl, Store.grows_adopt ..⟩
  · exact ⟨store, hid, .refl store⟩

theorem grows_modify {id : StoreId} {store : Store} (h : a.store? id = some store)
    {change : Store → Store} (hgrows : store.Grows (change store)) :
    a.Grows (a.modify id change) := by
  intro j old hj
  rw [store?_modify]
  split
  · next hij =>
    subst hij
    cases hj.symm.trans h
    exact ⟨_, by rw [hj, Option.map_some], hgrows⟩
  · exact ⟨old, hj, .refl old⟩

/-- What was detected stays detected. -/
theorem Grows.detects (h : a.Grows b) {root : StoreId} (hd : a.Detects root) : b.Detects root := by
  obtain ⟨id, store, hid, hroot, hdet⟩ := hd
  obtain ⟨store', hid', hg⟩ := h hid
  exact ⟨id, store', hid', hg.root.trans hroot, hg.isDetection hdet⟩

theorem Grows.size_le (h : a.Grows b) : a.size ≤ b.size := by
  rcases Nat.eq_zero_or_pos a.size with hzero | hpos
  · rw [hzero]
    omega
  · obtain ⟨store, hlast⟩ := exists_store? (Nat.sub_lt hpos Nat.one_pos)
    obtain ⟨store', hlast', -⟩ := h hlast
    have hlt := lt_size_of_store? hlast'
    exact Nat.le_of_pred_lt hlt

end Arena
end CryptoUsage
