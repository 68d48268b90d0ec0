import CryptoUsage.Proofs.Isolation.Lockstep
import CryptoUsage.Proofs.Scan.Soundness

/-!
# Work for other trees

When one state stands in another one, the larger state may go on with trees that are not in the
smaller one.  None of that is seen from the smaller state: the stores in question are of other
trees, and the observers that come and go wait on behalf of those.

## What is here

* Stores.  Work in another tree leaves the stores that stand for others as they are
  (`Mirrors.works`, from `Arena.Embeds.works`).  Which trees are meant is decided by the root: a
  store of a tree whose root stands for no other stands for none either
  (`Mirrors.isImage_eq_false`).
* Steps and runs.  Everything that is done for a root is a run of steps (`Proofs/Scan/Step`), and
  there are few kinds of them, so it is enough to look at each (`Step.mirrors`) and to go along a
  run (`Runs.mirrors`).

Of the larger state two more things are needed afterwards, and they are shown in the same way:
numbers of observers only go up (`Runs.nextObserver_le`), and work for a root makes no further
root (`Runs.root_of_new`).
-/

set_option autoImplicit false

namespace CryptoUsage
namespace Scan

variable {scan : Scan} {f : StoreId → StoreId} {g : ObserverId → ObserverId} {s s' t : ScanState}
  {root : StoreId}

/-! ## Stores -/

/-- Work in another tree, as far as stores are concerned. -/
theorem Mirrors.works (h : scan.Mirrors f g s t) (hworks : s.stores.Works root s'.stores)
    (hlinked : s'.stores.Linked) (hroot : isImage f t.stores.size root = false)
    (hhooks : s'.hooks = s.hooks) (hposition : s'.position = s.position) :
    scan.Mirrors f g s' t where
  stores :=
    { linked := hlinked
      linked' := h.stores.linked'
      live := h.stores.live
      embeds := h.stores.embeds.works h.stores.linked' hworks fun j hj heq =>
        isImage_eq_false.mp hroot j ⟨hj, heq⟩ }
  hooks := by
    rw [hhooks]
    exact h.hooks.prolong (.of_le f t.stores.size hworks.grows.size_le)
  offers := hhooks ▸ h.offers
  position_eq := hposition.trans h.position_eq

/-- A store in the tree of a root that stands for no other stands for no other either. -/
theorem Mirrors.isImage_eq_false (h : scan.Mirrors f g s t) {id : StoreId} {store : Store}
    (hid : s.stores.store? id = some store) (hroot : isImage f t.stores.size store.root = false) :
    isImage f t.stores.size id = false := by
  refine Bool.eq_false_iff.mpr ?_
  intro himage
  obtain ⟨y, hy⟩ := isImage_iff.mp himage
  obtain ⟨store', hstore', heq⟩ := h.stores.exists_store hy
  obtain rfl := Option.some.inj (hid.symm.trans heq)
  obtain ⟨-, top, htop, -⟩ := h.stores.linked'.exists_root hstore'
  have hlt := Arena.lt_size_of_store? htop
  exact CryptoUsage.isImage_eq_false.mp hroot store'.root ⟨hlt, rfl⟩

/-! ## Steps and runs -/

theorem Step.mirrors (h : scan.Step root s s') (hm : scan.Mirrors f g s t)
    (hroot : isImage f t.stores.size root = false) : scan.Mirrors f g s' t := by
  have hworks := h.works
  have hlinked := h.linked hm.stores.linked
  have hoffers := h.offers hm.offers
  cases h with
  | @wait kind observer requests root_eq now =>
    obtain ⟨hoffer, -, -, _, _, _, _, _, ⟨-, store, hid, hstore, -⟩, -⟩ := requests
    obtain ⟨-, top, htop, -⟩ := hm.stores.linked.exists_root hid
    have htarget : ∀ other ∈ s.hooks.kinds, other.sameTarget kind = true → other = kind :=
      fun other hother => (hm.offers other hother).eq_of_sameTarget hoffer
    have hother : isImage f t.stores.size observer.root = false := root_eq ▸ hroot
    refine ⟨hm.stores, hm.hooks.register_other htarget (Arena.lt_size_of_store? hid) ?_ hother ?_,
      hoffers, hm.position_eq⟩
    · exact hstore ▸ Arena.lt_size_of_store? htop
    · exact hm.isImage_eq_false hid (hstore ▸ hother)
  | _ => exact hm.works hworks hlinked hroot rfl rfl

/-- **Work for a tree that stands for no other is not seen from the smaller state.** -/
theorem Runs.mirrors (h : scan.Runs root s s') (hm : scan.Mirrors f g s t)
    (hroot : isImage f t.stores.size root = false) : scan.Mirrors f g s' t := by
  induction h with
  | refl => exact hm
  | tail _ hstep ih => exact hstep.mirrors ih hroot

/-- Numbers of observers are given out in order. -/
theorem Step.nextObserver_le (h : scan.Step root s s') :
    s.hooks.nextObserver ≤ s'.hooks.nextObserver := by
  cases h with
  | @wait kind observer =>
    rcases HookRepository.register_cases s.hooks kind observer with
      ⟨heq, -⟩ | ⟨-, heq⟩ | ⟨_, _, _, -, -, -, -, heq⟩ <;> simp only [heq]
    · exact Nat.le_refl _
    · exact Nat.le_succ _
    · exact Nat.le_succ _
  | _ => exact Nat.le_refl _

theorem Runs.nextObserver_le (h : scan.Runs root s s') :
    s.hooks.nextObserver ≤ s'.hooks.nextObserver := by
  induction h with
  | refl => exact Nat.le_refl _
  | tail _ hstep ih => exact Nat.le_trans ih hstep.nextObserver_le

/-- Work for a root makes no further root. -/
theorem Step.root_of_new (h : scan.Step root s s') {id : StoreId} {store : Store}
    (hid : s'.stores.store? id = some store) (hpar : store.parent = none) :
    ∃ old, s.stores.store? id = some old ∧ old.parent = none ∧ old.rule = store.rule := by
  cases h.written hid with
  | kept old_eq => exact ⟨store, old_eq, hpar, rfl⟩
  | filed old_eq claimed grows =>
    exact ⟨_, old_eq, grows.parent ▸ hpar, grows.rule.symm⟩
  | taken may new_eq =>
    rw [new_eq] at hpar ⊢
    exact ⟨_, may.store_eq, hpar, rfl⟩
  | followed id_eq matched follows rooted above_eq new_eq => rw [new_eq] at hpar; cases hpar
  | moved id_eq may above_eq new_eq =>
    rw [new_eq, (Store.grows_file ..).parent] at hpar
    cases hpar

theorem Runs.root_of_new (h : scan.Runs root s s') {id : StoreId} {store : Store}
    (hid : s'.stores.store? id = some store) (hpar : store.parent = none) :
    ∃ old, s.stores.store? id = some old ∧ old.parent = none ∧ old.rule = store.rule := by
  induction h generalizing store with
  | refl => exact ⟨store, hid, hpar, rfl⟩
  | tail _ hstep ih =>
    obtain ⟨between, hbetween, hnone, hrule⟩ := hstep.root_of_new hid hpar
    obtain ⟨old, hold, hnone', hrule'⟩ := ih hbetween hnone
    exact ⟨old, hold, hnone', hrule'.trans hrule⟩

end Scan
end CryptoUsage
