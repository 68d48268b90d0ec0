import CryptoUsage.Proofs.Arena.Mirroring
import CryptoUsage.Proofs.Hooks.Waiting
import Mathlib.Data.List.Basic

/-!
# Observers that stand for observers

If the stores of one scan stand in another one, its observers may stand there as well: on hooks of
the same kinds and in the same order, with other observers in between that belong to other trees.
`Mirrors` says this of two repositories, with a renaming of stores and one of numbers, and this
file shows what keeps it.

## What is here

* Looking up.  The observers of `b` are those of `a` that wait on behalf of stores in the image,
  renamed; this is the field of `Mirrors` that is worked with.  A number that stands for another
  one is looked up with the same answer (`lookup_eq`), by two facts about looking up in filtered
  and in renamed lists.
* Registering.  Whether a request waits already has the same answer on both sides
  (`any_sameRequest_eq`), because an observer of another tree has another requester.  So both
  sides enlist, or neither does (`register`).  On behalf of another tree the larger side may do
  either (`register_other`).
* Removing, on both sides (`removeObserver`) or from another tree (`removeObserver_other`).
* What is pending for a root is pending for the one that stands for it (`hasPendingForRoot_eq`);
  this is what decides about throwing a root away.

All of it is stated by kinds of hooks and not by places, which are different in the two
repositories; `Proofs/Hooks/Waiting` has the operations in that form.
-/

set_option autoImplicit false

namespace CryptoUsage

/-- The observer with its stores renamed. -/
def Observer.rename (f : StoreId → StoreId) (observer : Observer) : Observer :=
  { observer with requester := f observer.requester, root := f observer.root }

theorem Observer.sameRequest_rename {f : StoreId → StoreId} {o o' : Observer}
    (h : f o.requester = f o'.requester → o.requester = o'.requester) :
    (o.rename f).sameRequest (o'.rename f) = o.sameRequest o' := by
  have heq : (f o.requester == f o'.requester) = (o.requester == o'.requester) := by
    rw [Bool.eq_iff_iff, beq_iff_eq, beq_iff_eq]
    exact ⟨h, fun hsame => hsame ▸ rfl⟩
  simp only [sameRequest, rename, heq]

/-! ## Looking up -/

theorem lookup_filter_of_forall {α : Type} {p : Nat × α → Bool} {key : Nat} {l : List (Nat × α)}
    (h : ∀ entry ∈ l, entry.1 = key → p entry = true) : (l.filter p).lookup key = l.lookup key := by
  induction l with
  | nil => rfl
  | cons entry l ih =>
    obtain ⟨k, x⟩ := entry
    have ih := ih fun e he => h e (List.mem_cons_of_mem _ he)
    by_cases hk : k = key
    · rw [List.filter_cons_of_pos (h _ List.mem_cons_self hk), hk, List.lookup_cons_self,
        List.lookup_cons_self]
    · have hne : (key == k) = false := beq_eq_false_iff_ne.mpr (Ne.symm hk)
      rw [List.filter_cons]
      split
      · rw [List.lookup_cons, List.lookup_cons, hne, ih]
      · rw [List.lookup_cons, hne, ih]

theorem lookup_map_of_injective {α β : Type} {g : Nat → Nat} {f : α → β} {key : Nat}
    {l : List (Nat × α)} (h : ∀ entry ∈ l, g entry.1 = g key → entry.1 = key) :
    (l.map (Prod.map g f)).lookup (g key) = (l.lookup key).map f := by
  induction l with
  | nil => rfl
  | cons entry l ih =>
    obtain ⟨k, x⟩ := entry
    have ih := ih fun e he => h e (List.mem_cons_of_mem _ he)
    rw [List.map_cons, Prod.map_apply, List.lookup_cons, List.lookup_cons, ih]
    by_cases hk : k = key
    · rw [hk, beq_self_eq_true, beq_self_eq_true]
      rfl
    · have hne : (key == k) = false := beq_eq_false_iff_ne.mpr (Ne.symm hk)
      have hne' : (g key == g k) = false :=
        beq_eq_false_iff_ne.mpr fun heq => hk (h _ List.mem_cons_self heq.symm)
      rw [hne, hne']

namespace HookRepository

variable {a a' b b' : HookRepository} {f f' : StoreId → StoreId} {g : ObserverId → ObserverId}
  {size size' count count' : Nat} {kind : HookKind} {observer : Observer}

/-- The stores named by what waits are among the first ones. -/
def Within (repository : HookRepository) (count : Nat) : Prop :=
  ∀ ⦃kind number observer⦄, repository.Waits kind number observer →
    observer.requester < count ∧ observer.root < count

theorem Within.mono (h : a.Within count) (hle : count ≤ count') : a.Within count' := by
  intro kind number observer hwaits
  obtain ⟨hrequester, hroot⟩ := h hwaits
  exact ⟨Nat.lt_of_lt_of_le hrequester hle, Nat.lt_of_lt_of_le hroot hle⟩

theorem Within.enlist (h : a.Within count) (ha : Enlists kind observer a a')
    (hrequester : observer.requester < count) (hroot : observer.root < count) :
    a'.Within count := by
  intro kind' number observer' hwaits
  rcases ha.waits_iff.mp hwaits with hold | ⟨-, -, rfl⟩
  · exact h hold
  · exact ⟨hrequester, hroot⟩

/-- The observers of `b` wait in `a` under other numbers, on behalf of the stores that stand for
theirs; all others that wait in `a` belong to other trees. -/
structure Mirrors (f : StoreId → StoreId) (size count : Nat) (g : ObserverId → ObserverId)
    (a b : HookRepository) : Prop where
  orderly : a.Orderly
  orderly' : b.Orderly
  within : a.Within size
  within' : b.Within count
  kinds : b.kinds ⊆ a.kinds
  number_lt : ∀ {n}, n < b.nextObserver → g n < a.nextObserver
  injective : ∀ {m n}, m < b.nextObserver → n < b.nextObserver → g m = g n → m = n
  /-- Those that wait on behalf of roots that stand for roots are those that stand for others. -/
  waiting : ∀ kind, ((a.waiting kind).filter fun entry => isImage f count entry.2.root) =
    (b.waiting kind).map (Prod.map g (Observer.rename f))
  owner : ∀ {kind number observer}, a.Waits kind number observer →
    isImage g b.nextObserver number = true → isImage f count observer.root = true
  requester : ∀ {kind number observer}, a.Waits kind number observer →
    isImage f count observer.requester = true → isImage f count observer.root = true

namespace Mirrors

/-- What waits on behalf of a root that stands for another one stands for another observer. -/
theorem exists_of_isImage (h : Mirrors f size count g a b) {number : ObserverId}
    (hwaits : a.Waits kind number observer) (hroot : isImage f count observer.root = true) :
    ∃ n o, b.Waits kind n o ∧ Stands g b.nextObserver number n ∧ o.rename f = observer := by
  have hmem : (number, observer) ∈ (b.waiting kind).map (Prod.map g (Observer.rename f)) := by
    rw [← h.waiting kind]
    exact List.mem_filter.mpr ⟨mem_waiting.mpr hwaits, hroot⟩
  obtain ⟨⟨n, o⟩, hno, heq⟩ := List.mem_map.mp hmem
  obtain ⟨hn, ho⟩ := Prod.mk.inj heq
  exact ⟨n, o, mem_waiting.mp hno, ⟨h.orderly'.number_lt hno, hn⟩, ho⟩

theorem waits (h : Mirrors f size count g a b) {n : ObserverId} (hwaits : b.Waits kind n observer) :
    a.Waits kind (g n) (observer.rename f) := by
  have hmem : (g n, observer.rename f) ∈
      (a.waiting kind).filter fun entry => isImage f count entry.2.root := by
    rw [h.waiting kind]
    exact List.mem_map.mpr ⟨(n, observer), mem_waiting.mpr hwaits, rfl⟩
  exact mem_waiting.mp (List.mem_filter.mp hmem).1

/-- Looking up the observer that stands for another one. -/
theorem lookup_eq (h : Mirrors f size count g a b) (kind : HookKind) {number n : ObserverId}
    (hn : Stands g b.nextObserver number n) :
    (a.waiting kind).lookup number = ((b.waiting kind).lookup n).map (Observer.rename f) := by
  rw [← hn.eq, ← lookup_filter_of_forall (p := fun entry => isImage f count entry.2.root) ?_,
    h.waiting, lookup_map_of_injective ?_]
  · intro entry hentry heq
    exact h.injective (h.orderly'.number_lt hentry) hn.lt heq
  · intro entry hentry heq
    exact h.owner (mem_waiting.mp hentry) (isImage_iff.mpr ⟨n, hn.lt, heq.symm⟩)

/-- Mirroring goes on when the renaming of stores is prolonged. -/
theorem prolong (h : Mirrors f size count g a b) (hf : Prolongs f size count f' size' count') :
    Mirrors f' size' count' g a b where
  orderly := h.orderly
  orderly' := h.orderly'
  within := h.within.mono hf.target_le
  within' := h.within'.mono hf.source_le
  kinds := h.kinds
  number_lt := h.number_lt
  injective := h.injective
  waiting kind := by
    have hfilter : ((a.waiting kind).filter fun entry => isImage f' count' entry.2.root) =
        (a.waiting kind).filter fun entry => isImage f count entry.2.root := by
      refine List.filter_congr ?_
      intro entry hentry
      exact hf.isImage_eq (h.within (mem_waiting.mp hentry)).2
    rw [hfilter, h.waiting]
    refine List.map_congr_left ?_
    intro entry hentry
    obtain ⟨hrequester, hroot⟩ := h.within' (mem_waiting.mp hentry)
    simp only [Prod.map, Observer.rename, hf.eq hrequester, hf.eq hroot]
  owner hwaits hnumber := (hf.isImage_eq (h.within hwaits).2).trans (h.owner hwaits hnumber)
  requester hwaits hrequester := by
    obtain ⟨hlt, hlt'⟩ := h.within hwaits
    rw [hf.isImage_eq hlt] at hrequester
    rw [hf.isImage_eq hlt']
    exact h.requester hwaits hrequester

/-! ## Registering -/

/-- Whether a request waits already has the same answer on both sides. -/
theorem any_sameRequest_eq (h : Mirrors f size count g a b) (kind : HookKind)
    (hf : ∀ {x y}, x < count → y < count → f x = f y → x = y)
    (hrequester : observer.requester < count) :
    ((a.waiting kind).any fun entry => entry.2.sameRequest (observer.rename f)) =
      (b.waiting kind).any fun entry => entry.2.sameRequest observer := by
  rw [Bool.eq_iff_iff, List.any_eq_true, List.any_eq_true]
  constructor
  · rintro ⟨⟨number, o⟩, hentry, hsame⟩
    have hwaits := mem_waiting.mp hentry
    have heq : o.requester = f observer.requester := by
      simp only [Observer.sameRequest, Bool.and_eq_true, beq_iff_eq] at hsame
      exact hsame.1.1
    have himage : isImage f count o.requester = true :=
      isImage_iff.mpr ⟨observer.requester, hrequester, heq.symm⟩
    obtain ⟨n, o, hwaits', -, rfl⟩ := h.exists_of_isImage hwaits (h.requester hwaits himage)
    refine ⟨(n, o), mem_waiting.mpr hwaits', ?_⟩
    rw [← Observer.sameRequest_rename (hf (h.within' hwaits').1 hrequester)]
    exact hsame
  · rintro ⟨⟨n, o⟩, hentry, hsame⟩
    have hwaits := mem_waiting.mp hentry
    refine ⟨(g n, o.rename f), mem_waiting.mpr (h.waits hwaits), ?_⟩
    rw [Observer.sameRequest_rename (hf (h.within' hwaits).1 hrequester)]
    exact hsame

/-- Enlisting an observer, and the one that stands for it, on the same kind of hook. -/
theorem enlist (h : Mirrors f size count g a b) (ha : Enlists kind (observer.rename f) a a')
    (hb : Enlists kind observer b b') (hlt : ∀ {x}, x < count → f x < size)
    (hrequester : observer.requester < count) (hroot : observer.root < count) :
    Mirrors f size count (Function.update g b.nextObserver a.nextObserver) a' b' where
  orderly := ha.orderly h.orderly
  orderly' := hb.orderly h.orderly'
  within := h.within.enlist ha (hlt hrequester) (hlt hroot)
  within' := h.within'.enlist hb hrequester hroot
  kinds := by
    intro other hother
    rw [hb.mem_kinds] at hother
    rw [ha.mem_kinds]
    exact hother.imp_left fun hold => h.kinds hold
  number_lt hn := by
    rw [hb.nextObserver_eq] at hn
    rw [ha.nextObserver_eq]
    exact update_lt h.number_lt hn
  injective hm hn heq := by
    rw [hb.nextObserver_eq] at hm hn
    exact update_injective h.number_lt h.injective hm hn heq
  waiting other := by
    have hg := Prolongs.update g a.nextObserver b.nextObserver
    have hold : (b.waiting other).map (Prod.map (Function.update g b.nextObserver a.nextObserver)
        (Observer.rename f)) = (b.waiting other).map (Prod.map g (Observer.rename f)) := by
      refine List.map_congr_left ?_
      intro entry hentry
      simp only [Prod.map, hg.eq (h.orderly'.number_lt hentry)]
    have himage : isImage f count (observer.rename f).root = true := isImage_of_lt f hroot
    rw [ha.waiting_eq, hb.waiting_eq, List.filter_append, h.waiting, List.map_append, hold]
    congr 1
    split
    · rw [List.filter_cons, if_pos himage, List.filter_nil, List.map_singleton, Prod.map_apply,
        Function.update_self]
    · rfl
  owner hwaits hnumber := by
    rcases ha.waits_iff.mp hwaits with hold | ⟨-, -, rfl⟩
    · refine h.owner hold ?_
      have hg := Prolongs.update g a.nextObserver b.nextObserver
      rw [hb.nextObserver_eq, hg.isImage_eq (h.orderly.number_lt (mem_waiting.mpr hold))] at hnumber
      exact hnumber
    · exact isImage_of_lt f hroot
  requester hwaits himage := by
    rcases ha.waits_iff.mp hwaits with hold | ⟨-, -, rfl⟩
    · exact h.requester hold himage
    · exact isImage_of_lt f hroot

/-- Enlisting an observer of another tree. -/
theorem enlist_other (h : Mirrors f size count g a b) (ha : Enlists kind observer a a')
    (hrequester : observer.requester < size) (hroot : observer.root < size)
    (hother : isImage f count observer.root = false)
    (hother' : isImage f count observer.requester = false) : Mirrors f size count g a' b where
  orderly := ha.orderly h.orderly
  orderly' := h.orderly'
  within := h.within.enlist ha hrequester hroot
  within' := h.within'
  kinds := by
    intro other hmem
    rw [ha.mem_kinds]
    exact .inl (h.kinds hmem)
  number_lt hn := by
    rw [ha.nextObserver_eq]
    exact Nat.lt_succ_of_lt (h.number_lt hn)
  injective := h.injective
  waiting other := by
    rw [ha.waiting_eq, List.filter_append, h.waiting]
    split
    · rw [List.filter_cons_of_neg (by simp [hother]), List.filter_nil, List.append_nil]
    · rw [List.filter_nil, List.append_nil]
  owner hwaits hnumber := by
    rcases ha.waits_iff.mp hwaits with hold | ⟨-, rfl, -⟩
    · exact h.owner hold hnumber
    · -- the number was not in use
      obtain ⟨n, hn⟩ := isImage_iff.mp hnumber
      exact absurd hn.eq (Nat.ne_of_lt (h.number_lt hn.lt))
  requester hwaits himage := by
    rcases ha.waits_iff.mp hwaits with hold | ⟨-, -, rfl⟩
    · exact h.requester hold himage
    · rw [hother'] at himage
      cases himage

/-- Registering an observer, and the one that stands for it, for the same. -/
theorem register (h : Mirrors f size count g a b) (observer : Observer)
    (htarget : ∀ other ∈ a.kinds, other.sameTarget kind = true → other = kind)
    (hf : ∀ {x y}, x < count → y < count → f x = f y → x = y) (hlt : ∀ {x}, x < count → f x < size)
    (hrequester : observer.requester < count) (hroot : observer.root < count) :
    ∃ g', Prolongs g a.nextObserver b.nextObserver g'
        (a.register kind (observer.rename f)).1.nextObserver
        (b.register kind observer).1.nextObserver ∧
      Mirrors f size count g' (a.register kind (observer.rename f)).1
        (b.register kind observer).1 := by
  have htarget' : ∀ other ∈ b.kinds, other.sameTarget kind = true → other = kind :=
    fun other hother => htarget other (h.kinds hother)
  have hany := h.any_sameRequest_eq kind hf hrequester
  rcases register_waiting h.orderly.kinds_nodup (observer.rename f) htarget with
    ⟨hknown, heq⟩ | ⟨hnew, ha⟩ <;>
    rcases register_waiting h.orderly'.kinds_nodup observer htarget' with
      ⟨hknown', heq'⟩ | ⟨hnew', hb⟩
  · rw [heq, heq']
    exact ⟨g, .refl .., h⟩
  · rw [hknown, hnew'] at hany
    cases hany
  · rw [hnew, hknown'] at hany
    cases hany
  · refine ⟨_, ?_, h.enlist ha hb hlt hrequester hroot⟩
    rw [ha.nextObserver_eq, hb.nextObserver_eq]
    exact .update g a.nextObserver b.nextObserver

/-- Registering on behalf of another tree. -/
theorem register_other (h : Mirrors f size count g a b)
    (htarget : ∀ other ∈ a.kinds, other.sameTarget kind = true → other = kind)
    (hrequester : observer.requester < size) (hroot : observer.root < size)
    (hother : isImage f count observer.root = false)
    (hother' : isImage f count observer.requester = false) :
    Mirrors f size count g (a.register kind observer).1 b := by
  rcases register_waiting h.orderly.kinds_nodup observer htarget with ⟨-, heq⟩ | ⟨-, ha⟩
  · rw [heq]
    exact h
  · exact h.enlist_other ha hrequester hroot hother hother'

/-! ## Removing -/

/-- Removing an observer, and the one that stands for it, from hooks of the same kind. -/
theorem removeObserver (h : Mirrors f size count g a b) {place' place : Nat} {number n : ObserverId}
    (hkind' : a.kinds[place']? = some kind) (hkind : b.kinds[place]? = some kind)
    (hn : Stands g b.nextObserver number n) :
    Mirrors f size count g (a.removeObserver place' number) (b.removeObserver place n) where
  orderly := h.orderly.removeObserver place' number
  orderly' := h.orderly'.removeObserver place n
  within _ _ _ hwaits := h.within hwaits.of_removeObserver
  within' _ _ _ hwaits := h.within' hwaits.of_removeObserver
  kinds := by
    rw [kinds_removeObserver, kinds_removeObserver]
    exact h.kinds
  number_lt := h.number_lt
  injective := h.injective
  waiting other := by
    rw [waiting_removeObserver h.orderly.kinds_nodup hkind',
      waiting_removeObserver h.orderly'.kinds_nodup hkind, List.filter_comm, h.waiting,
      List.filter_map]
    refine congrArg _ (List.filter_congr fun entry hentry => ?_)
    have hiff : g entry.1 = number ↔ entry.1 = n := by
      rw [← hn.eq]
      exact ⟨h.injective (h.orderly'.number_lt hentry) hn.lt, fun heq => heq ▸ rfl⟩
    simp only [Function.comp, Prod.map, ne_eq, hiff]
  owner hwaits hnumber := h.owner hwaits.of_removeObserver hnumber
  requester hwaits hrequester := h.requester hwaits.of_removeObserver hrequester

/-- Removing an observer of another tree. -/
theorem removeObserver_other (h : Mirrors f size count g a b) {place : Nat} {number : ObserverId}
    (hkind : a.kinds[place]? = some kind) (hnumber : isImage g b.nextObserver number = false) :
    Mirrors f size count g (a.removeObserver place number) b where
  orderly := h.orderly.removeObserver place number
  orderly' := h.orderly'
  within _ _ _ hwaits := h.within hwaits.of_removeObserver
  within' := h.within'
  kinds := by
    rw [kinds_removeObserver]
    exact h.kinds
  number_lt := h.number_lt
  injective := h.injective
  waiting other := by
    rw [waiting_removeObserver h.orderly.kinds_nodup hkind, List.filter_comm, h.waiting]
    refine List.filter_eq_self.mpr ?_
    intro entry hentry
    obtain ⟨⟨n, o⟩, hno, rfl⟩ := List.mem_map.mp hentry
    rw [decide_eq_true_iff]
    refine .inr ?_
    intro heq
    exact isImage_eq_false.mp hnumber n ⟨h.orderly'.number_lt hno, heq⟩
  owner hwaits hnumber := h.owner hwaits.of_removeObserver hnumber
  requester hwaits hrequester := h.requester hwaits.of_removeObserver hrequester

/-! ## What is pending -/

theorem hasPendingForRoot_eq (h : Mirrors f size count g a b)
    (hf : ∀ {x y}, x < count → y < count → f x = f y → x = y) {root : StoreId}
    (hroot : root < count) :
    a.hasPendingForRoot (f root) = b.hasPendingForRoot root := by
  rw [Bool.eq_iff_iff, hasPendingForRoot_iff, hasPendingForRoot_iff]
  constructor
  · rintro ⟨kind, number, observer, hwaits, heq⟩
    have himage : isImage f count observer.root = true :=
      isImage_iff.mpr ⟨root, hroot, heq.symm⟩
    obtain ⟨n, o, hwaits', -, rfl⟩ := h.exists_of_isImage hwaits himage
    exact ⟨kind, n, o, hwaits', hf (h.within' hwaits').2 hroot heq⟩
  · rintro ⟨kind, n, o, hwaits, rfl⟩
    exact ⟨kind, g n, o.rename f, h.waits hwaits, rfl⟩

end Mirrors

end HookRepository
end CryptoUsage
