import CryptoUsage.Proofs.Arena.Ancestry
import CryptoUsage.Store.Finding

/-!
# Looking up stores that are there

The operations on an arena do something sensible for a place where no store is.  This file states
them once more as partial functions, which give no result if they look up such a place, and shows
that on a linked arena they do give the result for every live store.  So the sensible something is
never what happens: the answer comes from stores that are there.

The walks along the links give no result either if they run out of steps; so they also show that
the steps suffice.

## What is here

* Writing.  `modify?`, `createChild?`, `createSibling?`, `claim?` and `receiveValue?` look up
  every store that they take.  A sibling is made under the parent of a store, and that it is there
  is part of `Linked` (`Linked.createSibling?_eq`); the others look up the store they are given
  (`Linked.claim?_eq`, `receiveValue?_eq`).
* Walking.  Up: the place decreases with each step, so one step more than the place is enough
  (`Linked.ancestryWithin?_eq`), and both questions that are answered on the way up follow.  Down:
  the place increases, so the number of stores is enough (`Linked.hasDetectionsWithin?_eq`,
  `Linked.projectWithin?_eq`).

The two lemmas about lists at the beginning say that a partial walk over a list has a result if
each of its steps has one.  The corresponding statements for a whole scan are in
`Proofs/Scan/Liveness`.
-/

set_option autoImplicit false

namespace CryptoUsage

section Partial

variable {α β : Type}

theorem anyM_eq_some {p? : α → Option Bool} {p : α → Bool} {l : List α}
    (h : ∀ a ∈ l, p? a = some (p a)) : l.anyM p? = some (l.any p) := by
  induction l with
  | nil => rfl
  | cons a l ih =>
    rw [List.anyM, h a List.mem_cons_self, List.any_cons]
    cases hp : p a with
    | true => simp
    | false => simpa using ih fun b hb => h b (List.mem_cons_of_mem a hb)

theorem mapM_eq_some {f? : α → Option β} {f : α → β} {l : List α}
    (h : ∀ a ∈ l, f? a = some (f a)) : l.mapM f? = some (l.map f) := by
  induction l with
  | nil => rfl
  | cons a l ih =>
    rw [List.mapM_cons, h a List.mem_cons_self, ih fun b hb => h b (List.mem_cons_of_mem a hb)]
    rfl

end Partial

namespace Arena

variable (arena : Arena)

/-! ## Writing -/

/-- The arena with the store at a place changed, if there is one. -/
def modify? (id : StoreId) (change : Store → Store) : Option Arena :=
  (arena.store? id).map fun _ => arena.modify id change

/-- A new store under a parent, if that is there. -/
def createChild? (parent : StoreId) (index : Int) (rule : RuleId) (hook : Option HookOrigin) :
    Option (Arena × StoreId) :=
  (arena.store? parent).map fun _ => arena.createChild parent index rule hook

/-- A store for the same rule in the same place of the tree, if the store above is there. -/
def createSibling? (store : Store) : Option (Arena × StoreId) :=
  match store.parent with
  | some (parent, index) => arena.createChild? parent index store.rule store.hook
  | none => some (arena.createRoot store.rule)

/-- A store or a sibling with a site given to it, if every store it takes is there. -/
def claim? (id : StoreId) (site : Site) : Option (Arena × StoreId) := do
  let store ← arena.store? id
  let (grown, target) ←
    if store.site.all (· == site) then some (arena, id) else arena.createSibling? store
  let grown ← grown.modify? target fun store => { store with site := some site }
  return (grown, target)

/-- A value filed in a store or in a new child, if every store it takes is there. -/
def receiveValue? (id : StoreId) (index : Int) (moveUnder : Option Int) (value : DetectedValue) :
    Option (Arena × StoreId) :=
  match moveUnder with
  | none => (arena.modify? id fun store => store.file index value).map (·, id)
  | some target => do
    let store ← arena.store? id
    let (grown, moved) ← arena.createChild? id target store.rule none
    let grown ← grown.modify? moved fun store => store.file index value
    return (grown, moved)

/-! ## Walking -/

/-- The stores on the way from a store to its root, if all are there and `steps` suffice. -/
def ancestryWithin? : Nat → StoreId → Option (List StoreId)
  | 0, _ => none
  | steps + 1, id => do
    let store ← arena.store? id
    match store.parent with
    | some (parent, _) => (ancestryWithin? steps parent).map (id :: ·)
    | none => some [id]

/-- Whether a store or one above it has the given rule and site, if all are there. -/
def isClaimedOnPath? (id : StoreId) (rule : RuleId) (site : Site) : Option Bool := do
  let path ← arena.ancestryWithin? (id + 1) id
  path.anyM fun above => (arena.store? above).map fun store =>
    store.rule == rule && store.site == some site

/-- The store under which a hook was first asked for, if all stores on the way are there. -/
def hookRoot? (id : StoreId) : Option StoreId := do
  let path ← arena.ancestryWithin? (id + 1) id
  let hooks ← path.mapM fun above => (arena.store? above).map (·.hook)
  return ((hooks.findSome? fun hook => hook.map (·.hookRoot)).getD id)

/-- Whether a store or one below it holds a value or an action, if all are there and `height`
suffices. -/
def hasDetectionsWithin? : Nat → StoreId → Option Bool
  | 0, _ => none
  | height + 1, id => do
    let store ← arena.store? id
    if store.isDetection then some true
    else store.children.items.anyM (hasDetectionsWithin? height)

/-- Whether a store or one below it holds a value or an action, if all are there. -/
def hasDetections? (id : StoreId) : Option Bool := arena.hasDetectionsWithin? arena.size id

/-- A snapshot of a store and of what is below it, if all are there and `height` suffices. -/
def projectWithin? : Nat → StoreId → Option FindingNode
  | 0, _ => none
  | height + 1, id => do
    let store ← arena.store? id
    let children ← store.children.mapM fun (i, children) =>
      (children.mapM (projectWithin? height)).map fun nodes => (i, nodes)
    return .node store.rule store.action store.values children

/-- A snapshot of a store and of everything below it, if all are there. -/
def project? (id : StoreId) : Option FindingNode := arena.projectWithin? arena.size id

variable {arena}

theorem modify?_eq {id : StoreId} {store : Store} (h : arena.store? id = some store)
    (change : Store → Store) : arena.modify? id change = some (arena.modify id change) := by
  rw [modify?, h, Option.map_some]

theorem createChild?_eq {parent : StoreId} {above : Store} (h : arena.store? parent = some above)
    (index : Int) (rule : RuleId) (hook : Option HookOrigin) :
    arena.createChild? parent index rule hook =
      some (arena.createChild parent index rule hook) := by
  rw [createChild?, h, Option.map_some]

theorem Linked.createSibling?_eq (h : Linked arena) {id : StoreId} {store : Store}
    (hid : arena.store? id = some store) :
    arena.createSibling? store = some (arena.createSibling store) ∧
      ∃ made, (arena.createSibling store).1.store? (arena.createSibling store).2 = some made := by
  rw [createSibling?, createSibling]
  cases hpar : store.parent with
  | none => exact ⟨rfl, _, (store?_createRoot ..).trans (if_pos rfl)⟩
  | some above =>
    obtain ⟨p, i⟩ := above
    obtain ⟨-, above, habove, -⟩ := h.parent hid hpar
    exact ⟨createChild?_eq habove .., _, store?_createChild_new habove ..⟩

theorem Linked.claim?_eq (h : Linked arena) {id : StoreId} {store : Store}
    (hid : arena.store? id = some store) (site : Site) :
    arena.claim? id site = some (arena.claim id site) := by
  rw [claim?, claim, hid]
  simp only [Option.bind_eq_bind, Option.bind_some]
  split
  · simp only [modify?_eq hid]
    rfl
  · obtain ⟨hmade, made, hstore⟩ := h.createSibling?_eq hid
    rw [hmade, Option.bind_some]
    simp only [modify?_eq hstore]
    rfl

/-- The store that has the site afterwards is there. -/
theorem Linked.exists_claimed (h : Linked arena) {id : StoreId} {store : Store}
    (hid : arena.store? id = some store) (site : Site) :
    ∃ target, (arena.claim id site).1.store? (arena.claim id site).2 = some target := by
  simp only [claim, hid]
  split
  · exact ⟨_, store?_modify_self hid _⟩
  · obtain ⟨-, made, hstore⟩ := h.createSibling?_eq hid
    exact ⟨_, store?_modify_self hstore _⟩

theorem receiveValue?_eq {id : StoreId} {store : Store} (hid : arena.store? id = some store)
    (index : Int) (moveUnder : Option Int) (value : DetectedValue) :
    arena.receiveValue? id index moveUnder value =
      some (arena.receiveValue id index moveUnder value) := by
  cases moveUnder with
  | none =>
    simp only [receiveValue?, modify?_eq hid, Option.map_some]
    rfl
  | some target =>
    have hnew := store?_createChild_new hid target store.rule none
    simp only [receiveValue?, receiveValue, hid, Option.bind_eq_bind, Option.bind_some,
      createChild?_eq hid, createChild_snd, modify?_eq hnew]
    rfl

/-- The way up is there all along, and ends within the steps. -/
theorem Linked.ancestryWithin?_eq (h : Linked arena) {id steps : Nat} (hsteps : id < steps)
    {store : Store} (hid : arena.store? id = some store) :
    arena.ancestryWithin? steps id = some (arena.ancestry id) := by
  induction steps generalizing id store with
  | zero => cases hsteps
  | succ steps ih =>
    rw [ancestryWithin?, h.ancestry_eq hid, hid]
    simp only [Option.bind_eq_bind, Option.bind_some]
    cases hpar : store.parent with
    | none => rfl
    | some above =>
      obtain ⟨p, i⟩ := above
      obtain ⟨hlt, above, habove, -⟩ := h.parent hid hpar
      simp only [ih (Nat.lt_of_lt_of_le hlt (by omega)) habove, Option.map_some]

theorem Linked.isClaimedOnPath?_eq (h : Linked arena) {id : StoreId} {store : Store}
    (hid : arena.store? id = some store) (rule : RuleId) (site : Site) :
    arena.isClaimedOnPath? id rule site = some (arena.isClaimedOnPath id rule site) := by
  rw [isClaimedOnPath?, h.ancestryWithin?_eq (Nat.lt_succ_self id) hid]
  refine anyM_eq_some ?_
  intro above habove
  obtain ⟨-, store', hstore', -⟩ := h.of_mem_ancestry hid habove
  rw [hasClaimed, hstore', Option.map_some, Option.any_some]

theorem Linked.hookRoot?_eq (h : Linked arena) {id : StoreId} {store : Store}
    (hid : arena.store? id = some store) : arena.hookRoot? id = some (arena.hookRoot id) := by
  have hhooks : (arena.ancestry id).mapM (fun above => (arena.store? above).map (·.hook)) =
      some ((arena.ancestry id).map fun above => (arena.store? above).bind (·.hook)) := by
    refine mapM_eq_some ?_
    intro above habove
    obtain ⟨-, store', hstore', -⟩ := h.of_mem_ancestry hid habove
    rw [hstore', Option.map_some, Option.bind_some]
  simp only [hookRoot?, h.ancestryWithin?_eq (Nat.lt_succ_self id) hid, Option.bind_eq_bind,
    Option.bind_some, hhooks, hookRoot, List.findSome?_map]
  rfl

/-- The places below a store are there all along, and end within the height. -/
theorem Linked.hasDetectionsWithin?_eq (h : Linked arena) {id : StoreId} {height : Nat}
    {store : Store} (hid : arena.store? id = some store) (hheight : arena.size ≤ id + height) :
    arena.hasDetectionsWithin? height id = some (arena.hasDetectionsWithin height id) := by
  induction height generalizing id store with
  | zero => exact absurd (lt_size_of_store? hid) (Nat.not_lt_of_le hheight)
  | succ height ih =>
    have hchildren : store.children.items.anyM (arena.hasDetectionsWithin? height) =
        some (store.children.items.any (arena.hasDetectionsWithin height)) := by
      refine anyM_eq_some ?_
      intro child hchild
      obtain ⟨i, hmem⟩ := Slots.mem_items.mp hchild
      obtain ⟨below, hbelow, -⟩ := (h.child hid).mp hmem
      have hlt : id < child := h.lt_of_isParent ⟨store, i, hid, hmem⟩
      refine ih hbelow (Nat.le_trans hheight ?_)
      rw [← Nat.add_assoc, Nat.add_right_comm]
      exact Nat.add_le_add_right hlt height
    rw [hasDetectionsWithin?, hasDetectionsWithin, hid]
    simp only [Option.bind_eq_bind, Option.bind_some, Option.any_some, hchildren]
    cases store.isDetection <;> rfl

theorem Linked.hasDetections?_eq (h : Linked arena) {id : StoreId} {store : Store}
    (hid : arena.store? id = some store) :
    arena.hasDetections? id = some (arena.hasDetections id) :=
  h.hasDetectionsWithin?_eq hid (Nat.le_add_left ..)

theorem Linked.projectWithin?_eq (h : Linked arena) {id : StoreId} {height : Nat}
    {store : Store} (hid : arena.store? id = some store) (hheight : arena.size ≤ id + height) :
    arena.projectWithin? height id = some (arena.projectWithin height id) := by
  induction height generalizing id store with
  | zero => exact absurd (lt_size_of_store? hid) (Nat.not_lt_of_le hheight)
  | succ height ih =>
    have hlist : ∀ entry ∈ store.children, entry.2.mapM (arena.projectWithin? height) =
        some (entry.2.map (arena.projectWithin height)) := by
      rintro ⟨i, children⟩ hentry
      refine mapM_eq_some fun c hc => ?_
      have hmem : c ∈ Slots.at store.children i := Slots.mem_at.mpr ⟨children, hentry, hc⟩
      obtain ⟨below, hbelow, -⟩ := (h.child hid).mp hmem
      have hlt : id < c := h.lt_of_isParent ⟨store, i, hid, hmem⟩
      refine ih hbelow (Nat.le_trans hheight ?_)
      rw [← Nat.add_assoc, Nat.add_right_comm]
      exact Nat.add_le_add_right hlt height
    have hchildren : (store.children.mapM fun (i, children) =>
        (children.mapM (arena.projectWithin? height)).map fun nodes => (i, nodes)) =
          some (store.children.mapItems (arena.projectWithin height)) :=
      mapM_eq_some fun entry hentry => by simp only [hlist entry hentry, Option.map_some]
    rw [projectWithin?, projectWithin, hid]
    simp only [Option.bind_eq_bind, Option.bind_some, Option.getD_some, hchildren]
    rfl

theorem Linked.project?_eq (h : Linked arena) {id : StoreId} {store : Store}
    (hid : arena.store? id = some store) : arena.project? id = some (arena.project id) :=
  h.projectWithin?_eq hid (Nat.le_add_left ..)

end Arena
end CryptoUsage
