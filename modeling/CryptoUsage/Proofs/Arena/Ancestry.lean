import CryptoUsage.Proofs.Arena.Growth

/-!
# The way up from a store

`ancestry` lists the stores from a store to its root, and two questions are answered by it:
whether a site was claimed for the same rule further up, and under which store a hook was first
asked for.  In a linked arena the list follows the parents all the way (`Linked.ancestry_eq`), and
it stays the same while the arena grows (`Grows.ancestry_eq`).  Both are by induction on the
place, as a parent stands in front of its children.

## Claims on the way up

A rule is not evaluated again at a site that it is being evaluated at, and this is decided by
looking at the way up.  A new child of a store with a free path has a free path
(`Linked.isClaimedOnPath_createChild`), since nothing was given a site by making it.

## Where hooks were first asked for

A store that a hook brought about remembers that first store.  `HooksRooted` says that it is the
one found from its parent, so that whatever further hooks bring about goes back to the same
store.  It stays so while the arena grows if it is so for the new stores (`HooksRooted.grows`),
and the store that is found is live and of the same tree (`Linked.exists_hookRoot`).

`HooksLive` asks less, only that the stores that are named are there.  That is enough for work
that does not look at hooks but must not lose them, and each operation keeps it.
-/

set_option autoImplicit false

namespace CryptoUsage
namespace Arena

variable {arena a b : Arena}

/-- More steps than needed find no more ancestors. -/
theorem Linked.ancestryWithin_eq (h : Linked arena) {id steps : Nat} (hsteps : id < steps) :
    arena.ancestryWithin steps id = arena.ancestry id := by
  induction steps using Nat.strongRecOn generalizing id with
  | ind steps ih =>
    obtain ⟨steps, rfl⟩ := Nat.exists_eq_add_one_of_ne_zero (Nat.ne_zero_of_lt hsteps)
    rw [ancestry, ancestryWithin, ancestryWithin]
    cases hid : arena.store? id with
    | none => rfl
    | some store =>
      cases hpar : store.parent with
      | none => simp only [hpar]
      | some above =>
        obtain ⟨p, i⟩ := above
        have hp : p < id := (h.parent hid hpar).1
        simp only [hpar]
        rcases Nat.eq_or_lt_of_le (Nat.le_of_lt_succ hsteps) with rfl | hlt
        · rfl
        · rw [ih steps (Nat.lt_succ_self _) (Nat.lt_trans hp hlt), ih id hsteps hp]

/-- A store is followed by its parent's ancestry. -/
theorem Linked.ancestry_eq (h : Linked arena) {id : StoreId} {store : Store}
    (hid : arena.store? id = some store) :
    arena.ancestry id =
      id :: match store.parent with
        | some (p, _) => arena.ancestry p
        | none => [] := by
  rw [ancestry, ancestryWithin, hid]
  cases hpar : store.parent with
  | none => simp only [hpar]
  | some above =>
    obtain ⟨p, i⟩ := above
    simp only [hpar]
    rw [h.ancestryWithin_eq (h.parent hid hpar).1]

/-- The way up does not change while the arena grows. -/
theorem Grows.ancestry_eq (hg : a.Grows b) (ha : Linked a) (hb : Linked b) {id : StoreId} :
    ∀ {store : Store}, a.store? id = some store → b.ancestry id = a.ancestry id := by
  induction id using Nat.strongRecOn with
  | ind id ih =>
    intro store hid
    obtain ⟨store', hid', hgrows⟩ := hg hid
    rw [ha.ancestry_eq hid, hb.ancestry_eq hid', hgrows.parent]
    cases hpar : store.parent with
    | none => rfl
    | some above =>
      obtain ⟨p, i⟩ := above
      obtain ⟨hlt, above, habove, -⟩ := ha.parent hid hpar
      simp only
      rw [ih p hlt habove]

/-- Whatever is on the way up is live, stands in front and is of the same tree. -/
theorem Linked.of_mem_ancestry (h : Linked arena) {id j : StoreId} :
    ∀ {store : Store}, arena.store? id = some store → j ∈ arena.ancestry id →
      j ≤ id ∧ ∃ above, arena.store? j = some above ∧ above.root = store.root := by
  induction id using Nat.strongRecOn with
  | ind id ih =>
    intro store hid hj
    rw [h.ancestry_eq hid] at hj
    rcases List.mem_cons.mp hj with rfl | hj
    · exact ⟨Nat.le_refl _, store, hid, rfl⟩
    · cases hpar : store.parent with
      | none => simp [hpar] at hj
      | some above =>
        obtain ⟨p, i⟩ := above
        obtain ⟨hlt, above, habove, -, hroot⟩ := h.parent hid hpar
        simp only [hpar] at hj
        obtain ⟨hle, top, htop, hr⟩ := ih p hlt habove hj
        exact ⟨Nat.le_trans hle (Nat.le_of_lt hlt), top, htop, hr.trans hroot.symm⟩

/-- There is no way up from a place where no store is. -/
theorem exists_store?_of_mem_ancestry {id j : StoreId} (h : j ∈ arena.ancestry id) :
    ∃ store, arena.store? id = some store := by
  cases hid : arena.store? id with
  | none =>
    rw [ancestry, ancestryWithin, hid] at h
    cases h
  | some store => exact ⟨store, rfl⟩

theorem Linked.mem_ancestry_self (h : Linked arena) {id : StoreId} {store : Store}
    (hid : arena.store? id = some store) : id ∈ arena.ancestry id := by
  rw [h.ancestry_eq hid]
  exact List.mem_cons_self

theorem Linked.mem_ancestry_of_parent (h : Linked arena) {id p j : StoreId} {i : Int}
    {store : Store} (hid : arena.store? id = some store) (hpar : store.parent = some (p, i))
    (hj : j ∈ arena.ancestry p) : j ∈ arena.ancestry id := by
  rw [h.ancestry_eq hid, hpar]
  exact List.mem_cons_of_mem _ hj

/-- The way up from a store further up is part of the way up. -/
theorem Linked.mem_ancestry_trans (h : Linked arena) {id c j : StoreId} :
    ∀ {store : Store}, arena.store? id = some store → c ∈ arena.ancestry id →
      j ∈ arena.ancestry c → j ∈ arena.ancestry id := by
  induction id using Nat.strongRecOn with
  | ind id ih =>
    intro store hid hc hj
    cases hpar : store.parent with
    | none =>
      rw [h.ancestry_eq hid, hpar] at hc
      exact List.mem_singleton.mp hc ▸ hj
    | some above =>
      obtain ⟨p, i⟩ := above
      rw [h.ancestry_eq hid, hpar] at hc
      rcases List.mem_cons.mp hc with rfl | hc
      · exact hj
      · obtain ⟨hlt, above, habove, -⟩ := h.parent hid hpar
        exact h.mem_ancestry_of_parent hid hpar (ih p hlt habove hc hj)

/-! ## Claims on the way up -/

theorem isClaimedOnPath_eq_false {id : StoreId} {rule : RuleId} {site : Site} :
    arena.isClaimedOnPath id rule site = false ↔
      ∀ j ∈ arena.ancestry id, arena.hasClaimed rule site j = false := by
  simp only [isClaimedOnPath, List.any_eq_false, Bool.not_eq_true]

/-- A store without a site, and whose parent's path is free, has a free path. -/
theorem Linked.isClaimedOnPath_of_parent (h : Linked arena) {id p : StoreId} {i : Int}
    {store : Store} {rule : RuleId} {site : Site} (hid : arena.store? id = some store)
    (hsite : store.site = none) (hpar : store.parent = some (p, i))
    (hfree : arena.isClaimedOnPath p rule site = false) :
    arena.isClaimedOnPath id rule site = false := by
  rw [isClaimedOnPath_eq_false] at hfree ⊢
  intro j hj
  rw [h.ancestry_eq hid, hpar] at hj
  rcases List.mem_cons.mp hj with rfl | hj
  · rw [hasClaimed, hid, Option.any_some, hsite]
    exact Bool.and_false _
  · exact hfree j hj

/-- A store whose path is free for its own rule has another site, if any. -/
theorem Linked.ne_of_isClaimedOnPath (h : Linked arena) {id : StoreId} {store : Store}
    {site other : Site} (hid : arena.store? id = some store) (hother : store.site = some other)
    (hfree : arena.isClaimedOnPath id store.rule site = false) : other ≠ site := by
  rintro rfl
  have hself := isClaimedOnPath_eq_false.mp hfree id (h.mem_ancestry_self hid)
  simp [hasClaimed, hid, hother] at hself

theorem Linked.isClaimedOnPath_parent (h : Linked arena) {id p : StoreId} {i : Int}
    {store : Store} {rule : RuleId} {site : Site} (hid : arena.store? id = some store)
    (hpar : store.parent = some (p, i)) (hfree : arena.isClaimedOnPath id rule site = false) :
    arena.isClaimedOnPath p rule site = false := by
  rw [isClaimedOnPath_eq_false] at hfree ⊢
  exact fun j hj => hfree j (h.mem_ancestry_of_parent hid hpar hj)

theorem hasClaimed_createChild {parent : StoreId} {above : Store}
    (h : arena.store? parent = some above) {index : Int} {child : RuleId}
    {hook : Option HookOrigin} {rule : RuleId} {site : Site} {j : StoreId} (hj : j < arena.size) :
    (arena.createChild parent index child hook).1.hasClaimed rule site j =
      arena.hasClaimed rule site j := by
  rw [hasClaimed, hasClaimed, store?_createChild h, if_neg (Nat.ne_of_lt hj)]
  split
  · next hp => rw [hp, h]; rfl
  · rfl

/-- A child made where the path is free has a free path. -/
theorem Linked.isClaimedOnPath_createChild (h : Linked arena) {parent : StoreId} {above : Store}
    (hparent : arena.store? parent = some above) {index : Int} {child : RuleId}
    {hook : Option HookOrigin} {rule : RuleId} {site : Site}
    (hfree : arena.isClaimedOnPath parent rule site = false) :
    (arena.createChild parent index child hook).1.isClaimedOnPath arena.size rule site = false := by
  have hlinked := h.createChild hparent index child hook
  refine hlinked.isClaimedOnPath_of_parent (store?_createChild_new hparent ..) rfl rfl ?_
  rw [isClaimedOnPath_eq_false] at hfree ⊢
  intro j hj
  rw [(grows_createChild hparent index child hook).ancestry_eq h hlinked hparent] at hj
  obtain ⟨-, store, hstore, -⟩ := h.of_mem_ancestry hparent hj
  rw [hasClaimed_createChild hparent (lt_size_of_store? hstore)]
  exact hfree j hj

/-! ## Where hooks were first asked for -/

/-- The hook root does not change while the arena grows. -/
theorem Grows.hookRoot_eq (hg : a.Grows b) (ha : Linked a) (hb : Linked b) {id : StoreId}
    {store : Store} (hid : a.store? id = some store) : b.hookRoot id = a.hookRoot id := by
  have hsame : ∀ j ∈ a.ancestry id, (b.store? j).bind (·.hook) = (a.store? j).bind (·.hook) := by
    intro j hj
    obtain ⟨-, above, habove, -⟩ := ha.of_mem_ancestry hid hj
    obtain ⟨above', habove', hgrows⟩ := hg habove
    rw [habove, habove', Option.bind_some, Option.bind_some, hgrows.hook]
  rw [hookRoot, hookRoot, hg.ancestry_eq ha hb hid]
  congr 1
  generalize a.ancestry id = path at hsame
  induction path with
  | nil => rfl
  | cons j rest ih =>
    rw [List.findSome?_cons, List.findSome?_cons, hsame j List.mem_cons_self,
      ih fun k hk => hsame k (List.mem_cons_of_mem _ hk)]

/-- A store that a hook brought about goes back to where its parent's hooks go back to. -/
def HooksRooted (arena : Arena) : Prop :=
  ∀ ⦃id store origin⦄, arena.store? id = some store → store.hook = some origin →
    ∃ p i, store.parent = some (p, i) ∧ origin.hookRoot = arena.hookRoot p

theorem HooksRooted.hookRoot_eq (hh : HooksRooted arena) {id p : StoreId} {i : Int} {store : Store}
    {origin : HookOrigin} (hid : arena.store? id = some store) (hhook : store.hook = some origin)
    (hpar : store.parent = some (p, i)) : origin.hookRoot = arena.hookRoot p := by
  obtain ⟨p', i', hpar', hback⟩ := hh hid hhook
  cases hpar.symm.trans hpar'
  exact hback

/-- Hook origins go back to the same stores while an arena grows. -/
theorem HooksRooted.grows (hh : HooksRooted a) (ha : Linked a) (hb : Linked b) (hg : a.Grows b)
    (hnew : ∀ {id store origin}, b.store? id = some store → a.size ≤ id →
      store.hook = some origin →
      ∃ p i above, store.parent = some (p, i) ∧ a.store? p = some above ∧
        origin.hookRoot = a.hookRoot p) : HooksRooted b := by
  intro id store origin hid hhook
  rcases Nat.lt_or_ge id a.size with hlt | hge
  · obtain ⟨old, hold⟩ := exists_store? hlt
    obtain ⟨store', hid', hgrows⟩ := hg hold
    cases hid.symm.trans hid'
    obtain ⟨p, i, hpar, hback⟩ := hh hold (hgrows.hook ▸ hhook)
    obtain ⟨-, above, habove, -⟩ := ha.parent hold hpar
    exact ⟨p, i, hgrows.parent.trans hpar, hback.trans (hg.hookRoot_eq ha hb habove).symm⟩
  · obtain ⟨p, i, above, hpar, habove, hback⟩ := hnew hid hge hhook
    exact ⟨p, i, hpar, hback.trans (hg.hookRoot_eq ha hb habove).symm⟩

/-- The store under which a hook was first asked for is live. -/
theorem Linked.exists_hookRoot (h : Linked arena) (hh : HooksRooted arena) {id : StoreId} :
    ∀ {store : Store}, arena.store? id = some store →
      ∃ first, arena.store? (arena.hookRoot id) = some first ∧ first.root = store.root := by
  induction id using Nat.strongRecOn with
  | ind id ih =>
    intro store hid
    cases hfind : (arena.ancestry id).findSome? fun above =>
        ((arena.store? above).bind (·.hook)).map (·.hookRoot) with
    | none => exact ⟨store, by rw [hookRoot, hfind, Option.getD_none, hid], rfl⟩
    | some first =>
      rw [hookRoot, hfind, Option.getD_some]
      obtain ⟨j, hj, hfirst⟩ := List.exists_of_findSome?_eq_some hfind
      obtain ⟨hle, near, hnear, hroot⟩ := h.of_mem_ancestry hid hj
      obtain ⟨origin, horigin, rfl⟩ := Option.map_eq_some_iff.mp hfirst
      rw [hnear, Option.bind_some] at horigin
      -- the nearest store with a hook goes back to the hook root of its parent, further up
      obtain ⟨p, i, hpar, hback⟩ := hh hnear horigin
      obtain ⟨hlt, above, habove, -, hr⟩ := h.parent hnear hpar
      obtain ⟨store', hstore', hr'⟩ := ih p (Nat.lt_of_lt_of_le hlt hle) habove
      exact ⟨store', hback ▸ hstore', hr'.trans (hr.symm.trans hroot)⟩

/-! ## Live hooks -/

/-- The stores under which hooks were first asked for are there. -/
def HooksLive (arena : Arena) : Prop :=
  ∀ ⦃id store origin⦄, arena.store? id = some store → store.hook = some origin →
    origin.hookRoot < arena.size

theorem HooksLive.hookRoot_lt (hl : HooksLive arena) (h : Linked arena) {id : StoreId}
    {store : Store} (hid : arena.store? id = some store) : arena.hookRoot id < arena.size := by
  cases hfind : (arena.ancestry id).findSome? fun above =>
      ((arena.store? above).bind (·.hook)).map (·.hookRoot) with
  | none => rw [hookRoot, hfind]; exact lt_size_of_store? hid
  | some first =>
    rw [hookRoot, hfind, Option.getD_some]
    obtain ⟨j, hj, hfirst⟩ := List.exists_of_findSome?_eq_some hfind
    obtain ⟨-, near, hnear, -⟩ := h.of_mem_ancestry hid hj
    obtain ⟨origin, horigin, rfl⟩ := Option.map_eq_some_iff.mp hfirst
    rw [hnear, Option.bind_some] at horigin
    exact hl hnear horigin

theorem HooksLive.createRoot (hl : HooksLive arena) (rule : RuleId) :
    HooksLive (arena.createRoot rule).1 := by
  intro id store origin hid hhook
  rw [size_createRoot]
  rcases store?_createRoot_cases hid with ⟨rfl, rfl⟩ | hold
  · cases hhook
  · exact Nat.lt_succ_of_lt (hl hold hhook)

theorem HooksLive.createChild (hl : HooksLive arena) {parent : StoreId} {above : Store}
    (hparent : arena.store? parent = some above) (index : Int) (rule : RuleId)
    {hook : Option HookOrigin} (hhook : ∀ origin ∈ hook, origin.hookRoot < arena.size) :
    HooksLive (arena.createChild parent index rule hook).1 := by
  intro id store origin hid horigin
  rw [size_createChild]
  rw [store?_createChild hparent] at hid
  refine Nat.lt_succ_of_lt ?_
  split at hid
  · obtain rfl := Option.some.inj hid
    exact hhook origin horigin
  · split at hid
    · obtain rfl := Option.some.inj hid
      exact hl hparent horigin
    · exact hl hid horigin

theorem HooksLive.modify (hl : HooksLive arena) (id : StoreId) {change : Store → Store}
    (hchange : ∀ store, (change store).hook = store.hook) : HooksLive (arena.modify id change) := by
  intro j store origin hj hhook
  rw [size_modify]
  rw [store?_modify] at hj
  split at hj
  · obtain ⟨old, hold, rfl⟩ := Option.map_eq_some_iff.mp hj
    exact hl hold (hchange old ▸ hhook)
  · exact hl hj hhook

end Arena
end CryptoUsage
