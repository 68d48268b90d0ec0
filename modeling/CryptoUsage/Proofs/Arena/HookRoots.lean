import CryptoUsage.Proofs.Arena.Ancestry

/-!
# First requesters

A store that a hook brought about names a store under which the hook was first asked for.  Hooks
follow one another, so on the way up from a store there may be many that hooks brought about; all
of them name the same store, and it is above all of them: the parent of the one that is furthest
up (`HooksRooted.exists_first`).

## How it is found

`Unhooked` says of a store that neither it nor anything above it was brought about by a hook.
Such a store is its own hook root (`Unhooked.hookRoot_eq`).  Any other one has the hook root of
its parent, whether a hook brought it about itself, as then it names what is found from its
parent, or not, as then the search passes over it (`Linked.hookRoot_of_hook`,
`Linked.hookRoot_of_parent`).  Together this is `Linked.hookRoot_cases`: each step up keeps the
hook root, until nothing further up owes anything to a hook.

The rest are inductions along the way up with this as the step.  The hook root is on the way up
and is unhooked (`Linked.hookRoot_mem_ancestry`), so asking again gives the same
(`Linked.hookRoot_hookRoot`); and whatever is below a store that a hook brought about has the hook
root that this store names (`Linked.hookRoot_of_mem_ancestry`).
-/

set_option autoImplicit false

namespace CryptoUsage
namespace Arena

variable {arena : Arena} {id c p : StoreId} {i : Int} {store : Store} {origin : HookOrigin}

/-- The hook that brought about the store at a place. -/
def origin? (arena : Arena) (id : StoreId) : Option HookOrigin :=
  (arena.store? id).bind (·.hook)

/-- No hook brought about the store or one above it. -/
def Unhooked (arena : Arena) (id : StoreId) : Prop :=
  ∀ j ∈ arena.ancestry id, arena.origin? j = none

theorem Unhooked.hookRoot_eq (h : arena.Unhooked id) : arena.hookRoot id = id := by
  have hnone : (arena.ancestry id).findSome? (fun above =>
      (arena.origin? above).map (·.hookRoot)) = none :=
    List.findSome?_eq_none_iff.mpr fun j hj => by rw [h j hj]; rfl
  exact congrArg (·.getD id) hnone

theorem Linked.hookRoot_of_hook (h : Linked arena) (hid : arena.store? id = some store)
    (hhook : store.hook = some origin) : arena.hookRoot id = origin.hookRoot := by
  rw [hookRoot, h.ancestry_eq hid, List.findSome?_cons, hid, Option.bind_some, hhook]
  rfl

/-- A store that no hook brought about has the hook root of its parent, if anything above it owes
something to a hook. -/
theorem Linked.hookRoot_of_parent (h : Linked arena) (hid : arena.store? id = some store)
    (hhook : store.hook = none) (hpar : store.parent = some (p, i)) (hp : ¬ arena.Unhooked p) :
    arena.hookRoot id = arena.hookRoot p := by
  rw [hookRoot, hookRoot, h.ancestry_eq hid, hpar, List.findSome?_cons, hid, Option.bind_some,
    hhook, Option.map_none]
  cases hfind : (arena.ancestry p).findSome? fun above =>
      ((arena.store? above).bind (·.hook)).map (·.hookRoot) with
  | none =>
    refine absurd (fun j hj => ?_) hp
    exact Option.map_eq_none_iff.mp (List.findSome?_eq_none_iff.mp hfind j hj)
  | some first => rfl

/-- **A step up keeps the hook root**, until nothing owes anything to a hook. -/
theorem Linked.hookRoot_cases (h : Linked arena) (hh : HooksRooted arena)
    (hid : arena.store? id = some store) :
    (arena.Unhooked id ∧ arena.hookRoot id = id) ∨
      ∃ p i, store.parent = some (p, i) ∧ arena.hookRoot id = arena.hookRoot p := by
  cases hhook : store.hook with
  | some origin =>
    obtain ⟨p, i, hpar, hback⟩ := hh hid hhook
    exact .inr ⟨p, i, hpar, (h.hookRoot_of_hook hid hhook).trans hback⟩
  | none =>
    have hself : arena.origin? id = none := by rw [origin?, hid, Option.bind_some, hhook]
    by_cases hfree : arena.Unhooked id
    · exact .inl ⟨hfree, hfree.hookRoot_eq⟩
    cases hpar : store.parent with
    | none =>
      refine absurd (fun j hj => ?_) hfree
      rw [h.ancestry_eq hid, hpar] at hj
      rw [List.mem_singleton.mp hj, hself]
    | some above =>
      obtain ⟨p, i⟩ := above
      refine .inr ⟨p, i, rfl, h.hookRoot_of_parent hid hhook hpar fun hp => hfree fun j hj => ?_⟩
      rw [h.ancestry_eq hid, hpar] at hj
      rcases List.mem_cons.mp hj with rfl | hj
      · exact hself
      · exact hp j hj

/-- The hook root is on the way up, and nothing owes anything to a hook from there on. -/
theorem Linked.hookRoot_mem_ancestry (h : Linked arena) (hh : HooksRooted arena) :
    ∀ {store : Store}, arena.store? id = some store →
      arena.hookRoot id ∈ arena.ancestry id ∧ arena.Unhooked (arena.hookRoot id) := by
  induction id using Nat.strongRecOn with
  | ind id ih =>
    intro store hid
    rcases h.hookRoot_cases hh hid with ⟨hfree, heq⟩ | ⟨p, i, hpar, heq⟩
    · rw [heq]
      exact ⟨h.mem_ancestry_self hid, hfree⟩
    · obtain ⟨hlt, above, habove, -⟩ := h.parent hid hpar
      obtain ⟨hmem, hfree⟩ := ih p hlt habove
      rw [heq]
      exact ⟨h.mem_ancestry_of_parent hid hpar hmem, hfree⟩

/-- A hook root is its own hook root. -/
theorem Linked.hookRoot_hookRoot (h : Linked arena) (hh : HooksRooted arena) (id : StoreId) :
    arena.hookRoot (arena.hookRoot id) = arena.hookRoot id := by
  cases hid : arena.store? id with
  | none =>
    have hfree : arena.Unhooked id := by
      intro j hj
      obtain ⟨store, hstore⟩ := exists_store?_of_mem_ancestry hj
      cases hid.symm.trans hstore
    rw [hfree.hookRoot_eq, hfree.hookRoot_eq]
  | some store => exact (h.hookRoot_mem_ancestry hh hid).2.hookRoot_eq

/-- Whatever is below a store that a hook brought about has the hook root that this store names. -/
theorem Linked.hookRoot_of_mem_ancestry (h : Linked arena) (hh : HooksRooted arena)
    (hc : arena.store? c = some store) (hhook : store.hook = some origin) :
    ∀ {below : Store}, arena.store? id = some below → c ∈ arena.ancestry id →
      arena.hookRoot id = origin.hookRoot := by
  induction id using Nat.strongRecOn with
  | ind id ih =>
    intro below hid hmem
    rcases h.hookRoot_cases hh hid with ⟨hfree, -⟩ | ⟨p, i, hpar, heq⟩
    · have hnone := hfree c hmem
      rw [origin?, hc, Option.bind_some, hhook] at hnone
      cases hnone
    · rw [h.ancestry_eq hid, hpar] at hmem
      rcases List.mem_cons.mp hmem with rfl | hmem
      · exact h.hookRoot_of_hook hc hhook
      · obtain ⟨hlt, above, habove, -⟩ := h.parent hid hpar
        rw [heq]
        exact ih p hlt habove hmem

/-- **The first requester**: of the stores on a way up that hooks brought about, the one furthest up
is filed under the store that all of them name. -/
theorem HooksRooted.exists_first (hh : HooksRooted arena) (h : Linked arena) :
    ∀ {store : Store} {origin : HookOrigin}, arena.store? c = some store →
      store.hook = some origin → ∃ t ∈ arena.ancestry c, ∃ top i, arena.store? t = some top ∧
        top.hook ≠ none ∧ top.parent = some (origin.hookRoot, i) := by
  induction c using Nat.strongRecOn with
  | ind c ih =>
    intro store origin hc hhook
    obtain ⟨p, i, hpar, hback⟩ := hh hc hhook
    obtain ⟨hlt, above, habove, -⟩ := h.parent hc hpar
    by_cases hfree : arena.Unhooked p
    · refine ⟨c, h.mem_ancestry_self hc, store, i, hc, by rw [hhook]; nofun, ?_⟩
      rw [hpar, hback, hfree.hookRoot_eq]
    · -- a hook brought about a store above the parent, and it names the same store
      obtain ⟨e, he⟩ := Classical.not_forall.mp hfree
      obtain ⟨hmem, hsome⟩ := Classical.not_imp.mp he
      obtain ⟨origin', horigin⟩ := Option.ne_none_iff_exists'.mp hsome
      obtain ⟨near, hnear, hhook'⟩ := Option.bind_eq_some_iff.mp horigin
      obtain ⟨hle, -⟩ := h.of_mem_ancestry habove hmem
      obtain ⟨t, ht, top, j, htop, htopHook, htopPar⟩ :=
        ih e (Nat.lt_of_le_of_lt hle hlt) hnear hhook'
      have hsame : origin.hookRoot = origin'.hookRoot :=
        hback.trans (h.hookRoot_of_mem_ancestry hh hnear hhook' habove hmem)
      have ht' := h.mem_ancestry_trans hc (h.mem_ancestry_of_parent hc hpar hmem) ht
      exact ⟨t, ht', top, j, htop, htopHook, hsame ▸ htopPar⟩

end Arena
end CryptoUsage
