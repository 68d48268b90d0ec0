import CryptoUsage.Proofs.Arena.Filing
import CryptoUsage.Store.Arena

/-!
# What stands where after an operation

Every operation on an arena changes at most two places: a new store at the end, and the store that
is written to.  The lemmas of this file say for each operation what is found at every place
afterwards, so that nothing later opens an operation again.

Live places are those in front of `Arena.size`, and an arena is determined by what is found at
each place (`ext_store?`).  Here and in all later files a store is spoken of as it is looked up,
`arena.store? id = some store`, and never by an index into the array.

## What is here

* Writing to one store: `store?_modify`, and `pushValue_eq`, which says that filing a value is
  such a writing.  What is written has names of its own (`Store.adopt`, `Store.take`,
  `Store.file`), so that lemmas about a store before and after can be stated without an arena
  around it.
* New stores.  `rootStore` and `Store.under` are a root and a child as they are made; both are
  empty (`Store.IsBlank`).  `store?_push` is the general form, `store?_createRoot` and
  `store?_createChild` the two that are used: making a child writes to its parent too.
* Throwing stores away.  `store?_truncate` is the half of it that is needed here: a store in front
  of the mark is untouched if its children are in front of it as well, and if no list of them is
  empty; for leaving out children also leaves out the lists that this empties.
-/

set_option autoImplicit false

namespace CryptoUsage

namespace Store

/-- A store as it is made under another one. -/
def under (above : Store) (id parent : StoreId) (index : Int) (rule : RuleId)
    (hook : Option HookOrigin) : Store where
  id
  level := above.level + 1
  rule
  parent := some (parent, index)
  root := above.root
  hook

/-- The store with one more child. -/
def adopt (store : Store) (index : Int) (child : StoreId) : Store :=
  { store with children := store.children.push index child }

theorem values_adopt (store : Store) (index : Int) (child : StoreId) :
    (store.adopt index child).values = store.values := rfl

/-- The store as one for which a rule matched a site, with the action that makes. -/
def take (store : Store) (site : Site) (action : Option DetectedValue) : Store :=
  { store with site := some site, action := action.orElse fun _ => store.action }

/-- The store with a value filed, unless it is there already. -/
def file (store : Store) (index : Int) (value : DetectedValue) : Store :=
  { store with values := store.values.pushNew index value }

theorem file_of_nil {store : Store} (h : store.values = []) (index : Int) (value : DetectedValue) :
    store.file index value = { store with values := [(index, [value])] } := by
  rw [file, h]
  rfl

/-- Nothing was detected for the store yet, and no rule followed from it. -/
structure IsBlank (store : Store) : Prop where
  values : store.values = []
  children : store.children = []
  action : store.action = none

theorem isBlank_under (above : Store) (id parent : StoreId) (index : Int) (rule : RuleId)
    (hook : Option HookOrigin) : (above.under id parent index rule hook).IsBlank :=
  ⟨rfl, rfl, rfl⟩

end Store

namespace Arena

variable {arena : Arena}

/-! ## Live places -/

theorem lt_size_of_store? {id : StoreId} {store : Store} (h : arena.store? id = some store) :
    id < arena.size :=
  (Array.getElem?_eq_some_iff.mp h).1

theorem exists_store? {id : StoreId} (h : id < arena.size) :
    ∃ store, arena.store? id = some store :=
  ⟨_, Array.getElem?_eq_getElem h⟩

theorem store?_eq_none {id : StoreId} (h : arena.size ≤ id) : arena.store? id = none :=
  Array.getElem?_eq_none h

theorem ext_store? {a b : Arena} (h : ∀ id, a.store? id = b.store? id) : a = b := by
  obtain ⟨as⟩ := a
  obtain ⟨bs⟩ := b
  exact congrArg Arena.mk (Array.ext_getElem? h)

/-! ## Changing one store -/

@[simp] theorem size_modify (id : StoreId) (change : Store → Store) :
    (arena.modify id change).size = arena.size := Array.size_modify ..

theorem store?_modify (id j : StoreId) (change : Store → Store) :
    (arena.modify id change).store? j =
      if id = j then (arena.store? j).map change else arena.store? j := Array.getElem?_modify

theorem store?_modify_self {id : StoreId} {store : Store} (h : arena.store? id = some store)
    (change : Store → Store) : (arena.modify id change).store? id = some (change store) := by
  rw [store?_modify, if_pos rfl, h, Option.map_some]

theorem pushValue_eq (arena : Arena) (id : StoreId) (index : Int) (value : DetectedValue) :
    arena.pushValue id index value = arena.modify id fun store => store.file index value := rfl

@[simp] theorem size_pushValue (id : StoreId) (index : Int) (value : DetectedValue) :
    (arena.pushValue id index value).size = arena.size := size_modify ..

theorem modify_modify (id : StoreId) (f g : Store → Store) :
    (arena.modify id f).modify id g = arena.modify id fun store => g (f store) := by
  refine ext_store? ?_
  intro j
  simp only [store?_modify]
  split
  · rw [Option.map_map]; rfl
  · rfl

/-! ## New stores -/

@[simp] theorem size_push (make : StoreId → Store) : (arena.push make).1.size = arena.size + 1 :=
  Array.size_push ..

theorem store?_push (make : StoreId → Store) (j : StoreId) :
    (arena.push make).1.store? j =
      if j = arena.size then some (make arena.size) else arena.store? j :=
  Array.getElem?_push

/-- A root as it is made. -/
def rootStore (rule : RuleId) (id : StoreId) : Store := { id, level := 0, rule, root := id }

@[simp] theorem createRoot_snd (rule : RuleId) : (arena.createRoot rule).2 = arena.size := rfl

@[simp] theorem size_createRoot (rule : RuleId) :
    (arena.createRoot rule).1.size = arena.size + 1 := size_push _

theorem store?_createRoot (rule : RuleId) (j : StoreId) :
    (arena.createRoot rule).1.store? j =
      if j = arena.size then some (rootStore rule arena.size) else arena.store? j :=
  store?_push ..

@[simp] theorem createChild_snd (parent : StoreId) (index : Int) (rule : RuleId)
    (hook : Option HookOrigin) : (arena.createChild parent index rule hook).2 = arena.size := rfl

@[simp] theorem size_createChild (parent : StoreId) (index : Int) (rule : RuleId)
    (hook : Option HookOrigin) :
    (arena.createChild parent index rule hook).1.size = arena.size + 1 := by
  rw [createChild, size_modify, size_push]

/-- Making a child writes to two places: the new one, and its parent. -/
theorem store?_createChild {parent : StoreId} {above : Store}
    (h : arena.store? parent = some above) (index : Int) (rule : RuleId)
    (hook : Option HookOrigin) (j : StoreId) :
    (arena.createChild parent index rule hook).1.store? j =
      if j = arena.size then some (above.under arena.size parent index rule hook)
      else if j = parent then some (above.adopt index arena.size)
      else arena.store? j := by
  have hlt := lt_size_of_store? h
  simp only [createChild, h, Option.map_some, Option.getD_some, store?_modify, store?_push]
  by_cases hj : j = arena.size
  · subst hj
    rw [if_neg (Nat.ne_of_lt hlt), if_pos rfl, if_pos rfl]; rfl
  · rw [if_neg hj, if_neg hj]
    by_cases hp : j = parent
    · subst hp
      rw [if_pos rfl, if_pos rfl, h]; rfl
    · rw [if_neg (Ne.symm hp), if_neg hp]

theorem store?_createChild_new {parent : StoreId} {above : Store}
    (h : arena.store? parent = some above) (index : Int) (rule : RuleId)
    (hook : Option HookOrigin) :
    (arena.createChild parent index rule hook).1.store? arena.size =
      some (above.under arena.size parent index rule hook) := by
  rw [store?_createChild h, if_pos rfl]

/-! ## Throwing stores away -/

theorem size_truncate (mark : Nat) : (arena.truncate mark).size = min mark arena.size := by
  rw [truncate]
  split
  · next h => exact (Nat.min_eq_right h).symm
  · simp [size]

/-- A store in front of the mark stays as it is if all its children stand there as well, and no list
of them is empty. -/
theorem store?_truncate {mark : Nat} {j : StoreId} {store : Store}
    (h : arena.store? j = some store) (hfull : store.children.IsFull)
    (hlow : ∀ child ∈ store.children.items, child < mark) (hj : j < mark) :
    (arena.truncate mark).store? j = some store := by
  rw [truncate]
  split
  · exact h
  · have htake : (arena.stores.take mark)[j]? = some store := by
      have hbound : j < min mark arena.stores.size - 0 :=
        Nat.lt_min.mpr ⟨hj, lt_size_of_store? h⟩
      rw [Array.take_eq_extract, Array.getElem?_extract, if_pos hbound, Nat.zero_add]
      exact h
    rw [store?, Array.getElem?_map, htake, Option.map_some,
      hfull.retain_eq_self fun child hchild => decide_eq_true (hlow child hchild)]

end Arena

end CryptoUsage
