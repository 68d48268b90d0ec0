import CryptoUsage.Store.Slots
import Mathlib.Data.List.Nodup

/-!
# How items are filed

Slots are a map from indices to lists of items, written as a list of entries.  Three things are to
be said of such a list, and none of them holds of every value of the type:

* each index has one entry, and smaller indices come first (`Sorted.keys`);
* the items of one index are related in the order in which they came (`Sorted.lists`), by a relation
  that depends on what is filed: places of stores increase, values differ;
* no list is empty (`IsFull`).

`Slots.update` keeps the order of the entries whatever it does to a list, so for an operation it
remains to say what becomes of that one list.  `Slots.retain` leaves no empty list behind, whatever
was there before (`isFull_retain`).

Together the three make the view `Slots.at` faithful: full slots with one entry for each index are
equal if the same is filed under every index (`Sorted.ext`).  That is how an item filed and taken
out again is seen to leave no trace (`Sorted.retain_push`): the list it may have been the first of
is gone as well.
-/

set_option autoImplicit false

namespace CryptoUsage
namespace Slots

variable {α β : Type} {R : α → α → Prop} {slots more : Slots α}

/-! ## Full slots -/

/-- No list is empty. -/
def IsFull (slots : Slots α) : Prop := ∀ entry ∈ slots, entry.2 ≠ []

theorem isFull_nil : IsFull ([] : Slots α) := fun _ h => absurd h List.not_mem_nil

theorem IsFull.update (h : IsFull slots) {index : Int} {change : List α → List α}
    (hchange : change (Slots.at slots index) ≠ []) : IsFull (slots.update index change) := by
  intro entry hentry
  rw [Slots.update, List.mem_append, List.mem_cons] at hentry
  rcases hentry with hbefore | rfl | hbehind
  · exact h entry (List.mem_filter.mp hbefore).1
  · exact hchange
  · exact h entry (List.mem_filter.mp hbehind).1

theorem IsFull.push (h : IsFull slots) (index : Int) (item : α) :
    IsFull (slots.push index item) :=
  h.update (by simp)

/-- An index that is new gets the item, as there is nothing else under it. -/
theorem IsFull.pushNew [BEq α] (h : IsFull slots) (index : Int) (item : α) :
    IsFull (slots.pushNew index item) := by
  refine h.update ?_
  split
  · next hcontains =>
    rintro hnil
    simp [hnil] at hcontains
  · simp

theorem isFull_retain (slots : Slots α) (keep : α → Bool) : IsFull (slots.retain keep) := by
  intro entry hentry
  simpa using (List.mem_filter.mp hentry).2

theorem IsFull.mapItems (h : IsFull slots) (f : α → β) : IsFull (slots.mapItems f) := by
  intro entry hentry
  obtain ⟨⟨i, items⟩, hmem, rfl⟩ := List.mem_map.mp hentry
  simpa using h _ hmem

/-- Where every list has items and all are kept, nothing goes. -/
theorem IsFull.retain_eq_self (h : IsFull slots) {keep : α → Bool}
    (hkeep : ∀ item ∈ slots.items, keep item = true) : slots.retain keep = slots := by
  have hlists : (slots.map fun entry => (entry.1, entry.2.filter keep)) = slots := by
    refine (List.map_congr_left fun entry hentry => ?_).trans (List.map_id slots)
    refine Prod.ext rfl (List.filter_eq_self.mpr fun item hitem => hkeep item ?_)
    exact List.mem_flatMap.mpr ⟨entry, hentry, hitem⟩
  refine (congrArg (List.filter _) hlists).trans ?_
  exact List.filter_eq_self.mpr fun entry hentry => by simpa using h entry hentry

/-! ## Sorted slots -/

/-- There is one list for each index, by increasing index, and the items of a list are related in
their order. -/
structure Sorted (R : α → α → Prop) (slots : Slots α) : Prop where
  keys : slots.Pairwise fun a b => a.1 < b.1
  lists : ∀ entry ∈ slots, entry.2.Pairwise R

theorem Sorted.nil : Sorted R [] := ⟨.nil, fun _ h => absurd h List.not_mem_nil⟩

/-- What is filed under an index is the list of its one entry. -/
theorem Sorted.at_eq (h : Sorted R slots) {index : Int} {items : List α}
    (hentry : (index, items) ∈ slots) : Slots.at slots index = items := by
  obtain ⟨before, behind, rfl⟩ := List.append_of_mem hentry
  obtain ⟨-, hcons, hacross⟩ := List.pairwise_append.mp h.keys
  have hbefore : Slots.at before index = [] := by
    refine List.eq_nil_iff_forall_not_mem.mpr fun item hitem => ?_
    obtain ⟨items', hmem, -⟩ := mem_at.mp hitem
    exact absurd (hacross _ hmem _ List.mem_cons_self) (Int.lt_irrefl _)
  have hbehind : Slots.at behind index = [] := by
    refine List.eq_nil_iff_forall_not_mem.mpr fun item hitem => ?_
    obtain ⟨items', hmem, -⟩ := mem_at.mp hitem
    exact absurd ((List.pairwise_cons.mp hcons).1 _ hmem) (Int.lt_irrefl _)
  rw [at_append, at_cons, if_pos rfl, hbefore, hbehind, List.nil_append, List.append_nil]

theorem Sorted.at (h : Sorted R slots) (index : Int) : (Slots.at slots index).Pairwise R := by
  cases hat : Slots.at slots index with
  | nil => exact .nil
  | cons item items =>
    obtain ⟨list, hentry, -⟩ := mem_at.mp (hat ▸ List.mem_cons_self : item ∈ Slots.at slots index)
    rw [← hat, h.at_eq hentry]
    exact h.lists _ hentry

theorem Sorted.update (h : Sorted R slots) {index : Int} {change : List α → List α}
    (hchange : (change (Slots.at slots index)).Pairwise R) :
    Sorted R (slots.update index change) := by
  refine ⟨?_, fun entry hentry => ?_⟩
  · rw [Slots.update, List.pairwise_append, List.pairwise_cons]
    refine ⟨h.keys.filter _, ⟨fun b hb => ?_, h.keys.filter _⟩, fun a ha b hb => ?_⟩
    · exact of_decide_eq_true (List.mem_filter.mp hb).2
    · have hlt : a.1 < index := of_decide_eq_true (List.mem_filter.mp ha).2
      rcases List.mem_cons.mp hb with rfl | hb
      · exact hlt
      · exact Int.lt_trans hlt (of_decide_eq_true (List.mem_filter.mp hb).2)
  · rw [Slots.update, List.mem_append, List.mem_cons] at hentry
    rcases hentry with hbefore | rfl | hbehind
    · exact h.lists entry (List.mem_filter.mp hbefore).1
    · exact hchange
    · exact h.lists entry (List.mem_filter.mp hbehind).1

/-- An item may be filed behind the items of its index to which it is related. -/
theorem Sorted.push (h : Sorted R slots) {index : Int} {item : α}
    (hitem : ∀ x ∈ Slots.at slots index, R x item) : Sorted R (slots.push index item) := by
  refine h.update (List.pairwise_append.mpr ⟨h.at index, List.pairwise_singleton .., ?_⟩)
  intro x hx y hy
  exact List.mem_singleton.mp hy ▸ hitem x hx

/-- Nothing is filed twice. -/
theorem Sorted.pushNew [DecidableEq α] (h : Sorted (· ≠ ·) slots) (index : Int) (item : α) :
    Sorted (· ≠ ·) (slots.pushNew index item) := by
  refine h.update ?_
  split
  · exact h.at index
  · next hnew =>
    refine List.pairwise_append.mpr ⟨h.at index, List.pairwise_singleton .., ?_⟩
    intro x hx y hy heq
    obtain rfl := List.mem_singleton.mp hy
    exact hnew (List.contains_iff_mem.mpr (heq ▸ hx))

theorem Sorted.retain (h : Sorted R slots) (keep : α → Bool) : Sorted R (slots.retain keep) := by
  refine ⟨?_, fun entry hentry => ?_⟩
  · rw [Slots.retain]
    refine List.Pairwise.filter _ (List.pairwise_map.mpr ?_)
    exact h.keys
  · obtain ⟨⟨i, items⟩, hmem, rfl⟩ := List.mem_map.mp (List.mem_filter.mp hentry).1
    exact (h.lists _ hmem).filter keep

/-! ## Slots as maps -/

/-- The entries of sorted slots are the indices with what is filed under them. -/
theorem Sorted.mem_iff (h : Sorted R slots) (hfull : IsFull slots) {index : Int} {items : List α} :
    (index, items) ∈ slots ↔ items ≠ [] ∧ Slots.at slots index = items := by
  constructor
  · exact fun hentry => ⟨hfull _ hentry, h.at_eq hentry⟩
  · rintro ⟨hne, rfl⟩
    obtain ⟨item, hitem⟩ := List.exists_mem_of_ne_nil _ hne
    obtain ⟨items, hentry, -⟩ := mem_at.mp hitem
    rwa [h.at_eq hentry]

/-- **Slots are maps**: where the same is filed under every index, the slots are equal. -/
theorem Sorted.ext {R' : α → α → Prop} (h : Sorted R slots) (hfull : IsFull slots)
    (h' : Sorted R' more) (hfull' : IsFull more)
    (hat : ∀ index, Slots.at slots index = Slots.at more index) : slots = more := by
  have hnodup {l : Slots α} (hkeys : l.Pairwise fun a b => a.1 < b.1) : l.Nodup :=
    hkeys.imp fun {a b} (hlt : a.1 < b.1) heq => absurd (heq ▸ hlt) (Int.lt_irrefl b.1)
  have hperm : slots.Perm more := by
    refine (List.perm_ext_iff_of_nodup (hnodup h.keys) (hnodup h'.keys)).mpr ?_
    rintro ⟨index, items⟩
    rw [h.mem_iff hfull, h'.mem_iff hfull', hat]
  exact hperm.eq_of_pairwise (fun a b _ _ hab hba => absurd hab (Int.lt_asymm hba)) h.keys h'.keys

/-- Taking out what was filed last leaves what was there. -/
theorem Sorted.retain_push (h : Sorted R slots) {index : Int} {item : α} {keep : α → Bool}
    (hout : keep item = false) : (slots.push index item).retain keep = slots.retain keep := by
  have htrivial : Sorted (fun _ _ => True) slots :=
    ⟨h.keys, fun entry hentry => (h.lists entry hentry).imp fun _ => trivial⟩
  refine ((htrivial.push fun _ _ => trivial).retain keep).ext (isFull_retain _ _) (h.retain keep)
    (isFull_retain _ _) fun i => ?_
  rw [at_retain, at_retain]
  by_cases hi : i = index
  · rw [hi, at_push_self, List.filter_append, List.filter_cons_of_neg (by simp [hout]),
      List.filter_nil, List.append_nil]
  · rw [at_push_of_ne hi]

/-- Keeping fewer items in two steps is keeping them in one. -/
theorem Sorted.retain_retain (h : Sorted R slots) (keep keep' : α → Bool) :
    (slots.retain keep).retain keep' = slots.retain fun item => keep' item && keep item := by
  refine ((h.retain keep).retain keep').ext (isFull_retain _ _) (h.retain _) (isFull_retain _ _) ?_
  intro i
  rw [at_retain, at_retain, at_retain, List.filter_filter]

end Slots
end CryptoUsage
