import CryptoUsage.Proofs.Arena.Framing
import CryptoUsage.Store.Finding
import Mathlib.Logic.Function.Basic

/-!
# Arenas in other places

The places of stores say nothing by themselves: if the stores of one arena stand in other places
of another one, with every link renamed accordingly, then whatever is asked of them has the same
answer.  `Embeds f a b` is that situation, where `f` gives the new places and `b` is the smaller
arena: `a` may have more stores besides.  It is the scan of one rule within that of many.

## The same answers

The way up is renamed place by place (`Embeds.ancestry_eq`), and so are the hook roots.  A walk
down gets as many steps as there are stores, which are more in the larger arena; but steps beyond
what is needed change nothing (`Linked.hasDetectionsWithin_congr`, `Linked.projectWithin_congr`),
and so detections and snapshots are equal (`Embeds.hasDetections_eq`, `Embeds.project_eq`).
Snapshots name no places, and that is why these are plain equations.

## The same operations

When both arenas get a new store, the renaming is extended by it (`extend`).  The extension agrees
with the old renaming on everything that was there (`extend_of_lt`), so stores whose links are
live are renamed as before (`Embeds.rename_extend`).  `Embeds.createRoot`, `Embeds.createChild`
and `Embeds.modify` say that the embedding goes on.  What only the larger arena does, in trees of
its own, leaves it as it is (`Embeds.works`).
-/

set_option autoImplicit false

namespace CryptoUsage

/-! ## Renaming numbers

The first `b` numbers are renamed to numbers below `a`, and then the next one to `a` itself. -/

section

variable {f : Nat → Nat} {a b x y : Nat}

theorem update_lt (hlt : ∀ {y}, y < b → f y < a) (hy : y < b + 1) :
    Function.update f b a y < a + 1 := by
  by_cases hnew : y = b
  · rw [hnew, Function.update_self]
    omega
  · have hbound := hlt (show y < b by omega)
    rw [Function.update_of_ne hnew]
    omega

theorem update_injective (hlt : ∀ {y}, y < b → f y < a)
    (hinj : ∀ {x y}, x < b → y < b → f x = f y → x = y) (hx : x < b + 1) (hy : y < b + 1)
    (heq : Function.update f b a x = Function.update f b a y) : x = y := by
  by_cases hnewx : x = b <;> by_cases hnewy : y = b
  · rw [hnewx, hnewy]
  · have hbound := hlt (show y < b by omega)
    rw [hnewx, Function.update_self, Function.update_of_ne hnewy] at heq
    omega
  · have hbound := hlt (show x < b by omega)
    rw [hnewy, Function.update_self, Function.update_of_ne hnewx] at heq
    omega
  · rw [Function.update_of_ne hnewx, Function.update_of_ne hnewy] at heq
    exact hinj (by omega) (by omega) heq

end

/-! ## Renaming links -/

/-- The origin with its store renamed. -/
def HookOrigin.rename (f : StoreId → StoreId) (origin : HookOrigin) : HookOrigin :=
  { origin with hookRoot := f origin.hookRoot }

/-- The store with all its links renamed. -/
def Store.rename (f : StoreId → StoreId) (store : Store) : Store :=
  { store with
    id := f store.id
    children := store.children.mapItems f
    parent := store.parent.map fun (p, i) => (f p, i)
    root := f store.root
    hook := store.hook.map (HookOrigin.rename f) }

namespace Slots

variable {α β : Type}

theorem mapItems_push (f : α → β) (slots : Slots α) (index : Int) (item : α) :
    (slots.push index item).mapItems f = (slots.mapItems f).push index (f item) := by
  simp only [push, update, at_mapItems]
  simp only [mapItems, List.map_append, List.map_cons, List.map_nil, List.filter_map]
  rfl

end Slots

namespace Store

variable (f : StoreId → StoreId) (store : Store)

theorem rename_adopt (index : Int) (child : StoreId) :
    (store.adopt index child).rename f = (store.rename f).adopt index (f child) := by
  simp only [rename, adopt, Slots.mapItems_push]

theorem rename_under (id parent : StoreId) (index : Int) (rule : RuleId)
    (hook : Option HookOrigin) :
    (store.under id parent index rule hook).rename f =
      (store.rename f).under (f id) (f parent) index rule (hook.map (HookOrigin.rename f)) := rfl

theorem rename_file (index : Int) (value : DetectedValue) :
    (store.file index value).rename f = (store.rename f).file index value := rfl

end Store

namespace Arena

variable {a b : Arena} {f f' : StoreId → StoreId}

theorem any_congr_of_mem {α : Type} {p q : α → Bool} {l : List α} (h : ∀ x ∈ l, p x = q x) :
    l.any p = l.any q := by
  induction l with
  | nil => rfl
  | cons x l ih =>
    rw [List.any_cons, List.any_cons, h x List.mem_cons_self,
      ih fun y hy => h y (List.mem_cons_of_mem x hy)]

/-- Renamings that agree on the places of an arena rename its stores alike. -/
theorem Linked.rename_congr (h : Linked b) (hl : HooksLive b)
    (hagree : ∀ j, j < b.size → f' j = f j) {id : StoreId} {store : Store}
    (hid : b.store? id = some store) : store.rename f' = store.rename f := by
  have hlive : ∀ {j s}, b.store? j = some s → f' j = f j := fun hj =>
    hagree _ (lt_size_of_store? hj)
  have hself : f' store.id = f store.id := (h.self hid).symm ▸ hlive hid
  have hchildren : store.children.mapItems f' = store.children.mapItems f := by
    refine Slots.mapItems_congr fun child hmem => ?_
    obtain ⟨i, hmem⟩ := Slots.mem_items.mp hmem
    obtain ⟨below, hbelow, -⟩ := (h.child hid).mp hmem
    exact hlive hbelow
  have hparent : (store.parent.map fun (p, i) => (f' p, i)) =
      store.parent.map fun (p, i) => (f p, i) := by
    refine Option.map_congr ?_
    rintro ⟨p, i⟩ hpar
    obtain ⟨-, above, habove, -⟩ := h.parent hid hpar
    simp only [hlive habove]
  have hroot : f' store.root = f store.root := by
    obtain ⟨-, top, htop, -⟩ := h.exists_root hid
    exact hlive htop
  have hhook : store.hook.map (HookOrigin.rename f') = store.hook.map (HookOrigin.rename f) := by
    refine Option.map_congr ?_
    intro origin horigin
    rw [HookOrigin.rename, HookOrigin.rename, hagree _ (hl hid horigin)]
  simp only [Store.rename, hself, hchildren, hparent, hroot, hhook]

/-- The stores of `b` stand in `a`, in the places that `f` gives. -/
structure Embeds (f : StoreId → StoreId) (a b : Arena) : Prop where
  injective : ∀ {i j}, i < b.size → j < b.size → f i = f j → i = j
  store_eq : ∀ {j store}, b.store? j = some store → a.store? (f j) = some (store.rename f)

theorem Embeds.lt_size (h : Embeds f a b) {j : StoreId} (hj : j < b.size) : f j < a.size := by
  obtain ⟨store, hstore⟩ := exists_store? hj
  exact lt_size_of_store? (h.store_eq hstore)

/-! ## The same answers -/

theorem Embeds.ancestry_eq (h : Embeds f a b) (ha : Linked a) (hb : Linked b) {id : StoreId} :
    ∀ {store : Store}, b.store? id = some store → a.ancestry (f id) = (b.ancestry id).map f := by
  induction id using Nat.strongRecOn with
  | ind id ih =>
    intro store hid
    rw [hb.ancestry_eq hid, ha.ancestry_eq (h.store_eq hid)]
    cases hpar : store.parent with
    | none => simp [Store.rename, hpar]
    | some above =>
      obtain ⟨p, i⟩ := above
      obtain ⟨hlt, above, habove, -⟩ := hb.parent hid hpar
      simp [Store.rename, hpar, ih p hlt habove]

theorem Embeds.hasClaimed_eq (h : Embeds f a b) {id : StoreId} {store : Store}
    (hid : b.store? id = some store) (rule : RuleId) (site : Site) :
    a.hasClaimed rule site (f id) = b.hasClaimed rule site id := by
  rw [hasClaimed, hasClaimed, h.store_eq hid, hid]
  rfl

theorem Embeds.isClaimedOnPath_eq (h : Embeds f a b) (ha : Linked a) (hb : Linked b)
    {id : StoreId} {store : Store} (hid : b.store? id = some store) (rule : RuleId) (site : Site) :
    a.isClaimedOnPath (f id) rule site = b.isClaimedOnPath id rule site := by
  rw [isClaimedOnPath, isClaimedOnPath, h.ancestry_eq ha hb hid, List.any_map]
  refine any_congr_of_mem ?_
  intro j hj
  obtain ⟨-, store', hstore', -⟩ := hb.of_mem_ancestry hid hj
  exact h.hasClaimed_eq hstore' rule site

theorem Embeds.hookRoot_eq (h : Embeds f a b) (ha : Linked a) (hb : Linked b) {id : StoreId}
    {store : Store} (hid : b.store? id = some store) : a.hookRoot (f id) = f (b.hookRoot id) := by
  have hsame : ∀ j ∈ b.ancestry id,
      ((a.store? (f j)).bind (·.hook)).map (·.hookRoot) =
        (((b.store? j).bind (·.hook)).map (·.hookRoot)).map f := by
    intro j hj
    obtain ⟨-, store', hstore', -⟩ := hb.of_mem_ancestry hid hj
    rw [h.store_eq hstore', hstore', Option.bind_some, Option.bind_some, Store.rename]
    cases store'.hook <;> rfl
  rw [hookRoot, hookRoot, h.ancestry_eq ha hb hid, List.findSome?_map]
  generalize b.ancestry id = path at hsame
  induction path with
  | nil => rfl
  | cons j rest ih =>
    rw [List.findSome?_cons, List.findSome?_cons, Function.comp, hsame j List.mem_cons_self]
    cases ((b.store? j).bind (·.hook)).map (·.hookRoot) with
    | none => exact ih fun k hk => hsame k (List.mem_cons_of_mem j hk)
    | some first => rfl

/-- More height than needed finds no more detections. -/
theorem Linked.hasDetectionsWithin_congr (h : Linked a) {id : Nat} (height height' : Nat)
    (hheight : a.size ≤ id + height) (hheight' : a.size ≤ id + height') :
    a.hasDetectionsWithin height id = a.hasDetectionsWithin height' id := by
  rcases Nat.lt_or_ge id a.size with hlt | hge
  · induction height generalizing id height' with
    | zero => omega
    | succ height ih =>
      obtain ⟨height', rfl⟩ : ∃ k, height' = k + 1 := ⟨height' - 1, by omega⟩
      obtain ⟨store, hid⟩ := exists_store? hlt
      rw [hasDetectionsWithin, hasDetectionsWithin, hid, Option.any_some, Option.any_some]
      congr 1
      refine any_congr_of_mem ?_
      intro child hchild
      obtain ⟨i, hmem⟩ := Slots.mem_items.mp hchild
      obtain ⟨below, hbelow, -⟩ := (h.child hid).mp hmem
      have hafter : id < child := h.lt_of_isParent ⟨store, i, hid, hmem⟩
      have hc := lt_size_of_store? hbelow
      exact ih _ (by omega) (by omega) hc
  · have hnone := store?_eq_none hge
    cases height <;> cases height' <;> simp [hasDetectionsWithin, hnone]

theorem Linked.projectWithin_congr (h : Linked a) {id : Nat} (height height' : Nat) {store : Store}
    (hid : a.store? id = some store) (hheight : a.size ≤ id + height)
    (hheight' : a.size ≤ id + height') :
    a.projectWithin height id = a.projectWithin height' id := by
  have hlt : id < a.size := lt_size_of_store? hid
  induction height generalizing id height' store with
  | zero => omega
  | succ height ih =>
    obtain ⟨height', rfl⟩ : ∃ k, height' = k + 1 := ⟨height' - 1, by omega⟩
    simp only [projectWithin, hid, Option.getD_some]
    congr 1
    refine Slots.mapItems_congr fun c hmem => ?_
    obtain ⟨i, hmem⟩ := Slots.mem_items.mp hmem
    obtain ⟨below, hbelow, -⟩ := (h.child hid).mp hmem
    have hafter : id < c := h.lt_of_isParent ⟨store, i, hid, hmem⟩
    exact ih height' hbelow (by omega) (by omega) (lt_size_of_store? hbelow)

theorem Embeds.hasDetectionsWithin_eq (h : Embeds f a b) (hb : Linked b) (height : Nat)
    {id : StoreId} {store : Store} (hid : b.store? id = some store) :
    a.hasDetectionsWithin height (f id) = b.hasDetectionsWithin height id := by
  induction height generalizing id store with
  | zero =>
    rw [hasDetectionsWithin, hasDetectionsWithin, h.store_eq hid, hid]
    rfl
  | succ height ih =>
    have hitems : (store.rename f).children.items = store.children.items.map f :=
      Slots.items_mapItems ..
    rw [hasDetectionsWithin, hasDetectionsWithin, h.store_eq hid, hid, Option.any_some,
      Option.any_some, hitems, List.any_map]
    congr 1
    refine any_congr_of_mem ?_
    intro child hchild
    obtain ⟨i, hmem⟩ := Slots.mem_items.mp hchild
    obtain ⟨below, hbelow, -⟩ := (hb.child hid).mp hmem
    exact ih hbelow

theorem Embeds.projectWithin_eq (h : Embeds f a b) (hb : Linked b) (height : Nat)
    {id : StoreId} {store : Store} (hid : b.store? id = some store) :
    a.projectWithin height (f id) = b.projectWithin height id := by
  induction height generalizing id store with
  | zero =>
    simp only [projectWithin, h.store_eq hid, hid, Option.getD_some]
    rfl
  | succ height ih =>
    simp only [projectWithin, h.store_eq hid, hid, Option.getD_some]
    simp only [Store.rename, Slots.mapItems_mapItems]
    congr 1
    refine Slots.mapItems_congr fun c hmem => ?_
    obtain ⟨i, hmem⟩ := Slots.mem_items.mp hmem
    obtain ⟨below, hbelow, -⟩ := (hb.child hid).mp hmem
    exact ih hbelow

/-- Detections are found in both places alike. -/
theorem Embeds.hasDetections_eq (h : Embeds f a b) (ha : Linked a) (hb : Linked b) {id : StoreId}
    {store : Store} (hid : b.store? id = some store) :
    a.hasDetections (f id) = b.hasDetections id := by
  rw [hasDetections, hasDetections,
    ha.hasDetectionsWithin_congr _ (a.size + b.size) (by omega) (by omega),
    hb.hasDetectionsWithin_congr _ (a.size + b.size) (by omega) (by omega)]
  exact h.hasDetectionsWithin_eq hb _ hid

/-- **Snapshots name no places**, so they are equal in both places. -/
theorem Embeds.project_eq (h : Embeds f a b) (ha : Linked a) (hb : Linked b) {id : StoreId}
    {store : Store} (hid : b.store? id = some store) : a.project (f id) = b.project id := by
  rw [project, project,
    ha.projectWithin_congr _ (a.size + b.size) (h.store_eq hid) (by omega) (by omega),
    hb.projectWithin_congr _ (a.size + b.size) hid (by omega) (by omega)]
  exact h.projectWithin_eq hb _ hid

/-! ## The same operations -/

/-- The renaming that also gives the place of a store that is new in both arenas. -/
def extend (f : StoreId → StoreId) (a b : Arena) : StoreId → StoreId :=
  Function.update f b.size a.size

@[simp] theorem extend_self (f : StoreId → StoreId) (a b : Arena) :
    extend f a b b.size = a.size := Function.update_self ..

theorem extend_of_lt {j : StoreId} (hj : j < b.size) : extend f a b j = f j :=
  Function.update_of_ne (Nat.ne_of_lt hj) ..

theorem Embeds.extend_injective (h : Embeds f a b) {i j : StoreId} (hi : i < b.size + 1)
    (hj : j < b.size + 1) (heq : extend f a b i = extend f a b j) : i = j :=
  update_injective h.lt_size h.injective hi hj heq

theorem Embeds.rename_extend (hb : Linked b) (hl : HooksLive b) {id : StoreId} {store : Store}
    (hid : b.store? id = some store) : store.rename (extend f a b) = store.rename f :=
  hb.rename_congr hl (fun _ hj => extend_of_lt hj) hid

theorem Embeds.createRoot (h : Embeds f a b) (hb : Linked b) (hl : HooksLive b) (rule : RuleId) :
    Embeds (extend f a b) (a.createRoot rule).1 (b.createRoot rule).1 := by
  refine ⟨fun hi hj => ?_, fun {j store} hj => ?_⟩
  · rw [size_createRoot] at hi hj
    exact h.extend_injective hi hj
  · rw [store?_createRoot] at hj
    split at hj
    · next hnew =>
      obtain rfl := Option.some.inj hj
      rw [hnew, extend_self, store?_createRoot, if_pos rfl]
      simp [rootStore, Store.rename, Slots.mapItems]
    · have hlt := lt_size_of_store? hj
      rw [extend_of_lt hlt, rename_extend hb hl hj, store?_createRoot,
        if_neg (Nat.ne_of_lt (h.lt_size hlt)), h.store_eq hj]

theorem Embeds.createChild (h : Embeds f a b) (hb : Linked b) (hl : HooksLive b)
    {parent : StoreId} {above : Store} (hparent : b.store? parent = some above) (index : Int)
    (rule : RuleId) {hook : Option HookOrigin}
    (hhook : ∀ origin ∈ hook, origin.hookRoot < b.size) :
    Embeds (extend f a b)
      (a.createChild (f parent) index rule (hook.map (HookOrigin.rename f))).1
      (b.createChild parent index rule hook).1 := by
  have hparent' := h.store_eq hparent
  have hlt := lt_size_of_store? hparent
  have hhook' : hook.map (HookOrigin.rename (extend f a b)) = hook.map (HookOrigin.rename f) := by
    refine Option.map_congr ?_
    intro origin horigin
    rw [HookOrigin.rename, HookOrigin.rename, extend_of_lt (hhook origin horigin)]
  refine ⟨fun hi hj => ?_, fun {j store} hj => ?_⟩
  · rw [size_createChild] at hi hj
    exact h.extend_injective hi hj
  · rw [store?_createChild hparent] at hj
    split at hj
    · next hnew =>
      obtain rfl := Option.some.inj hj
      rw [hnew, Store.rename_under, extend_self, store?_createChild_new hparent', hhook',
        extend_of_lt hlt, rename_extend hb hl hparent]
    · split at hj
      · next hp =>
        obtain rfl := Option.some.inj hj
        rw [hp, extend_of_lt hlt, store?_createChild hparent',
          if_neg (Nat.ne_of_lt (h.lt_size hlt)), if_pos rfl, Store.rename_adopt, extend_self,
          rename_extend hb hl hparent]
      · next hp =>
        have hj' := lt_size_of_store? hj
        rw [extend_of_lt hj', rename_extend hb hl hj, store?_createChild hparent',
          if_neg (Nat.ne_of_lt (h.lt_size hj')), if_neg fun heq => hp (h.injective hj' hlt heq),
          h.store_eq hj]

theorem Embeds.modify (h : Embeds f a b) {id : StoreId} (hid : id < b.size)
    {change : Store → Store}
    (hchange : ∀ store, (change store).rename f = change (store.rename f)) :
    Embeds f (a.modify (f id) change) (b.modify id change) := by
  refine ⟨fun hi hj => ?_, fun {j store} hj => ?_⟩
  · rw [size_modify] at hi hj
    exact h.injective hi hj
  · rw [store?_modify] at hj ⊢
    split at hj
    · next heq =>
      obtain ⟨old, hold, rfl⟩ := Option.map_eq_some_iff.mp hj
      rw [if_pos (congrArg f heq), h.store_eq hold, Option.map_some, hchange]
    · next hne =>
      have hj' := lt_size_of_store? hj
      rw [if_neg fun heq => hne (h.injective hid hj' heq), h.store_eq hj]

/-- Work in a tree that is not among the embedded ones leaves them embedded. -/
theorem Embeds.works {root : StoreId} (h : Embeds f a b) (hb : Linked b) {c : Arena}
    (hworks : Works root a c) (hroot : ∀ j, j < b.size → f j ≠ root) : Embeds f c b := by
  refine ⟨h.injective, fun {j store} hj => ?_⟩
  obtain ⟨-, top, htop, -⟩ := hb.exists_root hj
  exact (hworks.frame (hroot _ (lt_size_of_store? htop))).mpr (h.store_eq hj)

end Arena
end CryptoUsage
