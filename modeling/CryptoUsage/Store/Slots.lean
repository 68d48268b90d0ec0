/-!
# Items by index

What a rule detects is filed by the index of the argument it belongs to.  A `Slots` value is a map
from indices to lists of items, kept by increasing index: an index gets its list when something is
filed under it for the first time, and the items of one index stand in the order in which they came.
Nothing in the type says that a list has items.  One that loses its last item to `retain` is left
out by it, and whether that and `update` leave no empty list behind is for the theory to say.

Two views of a map carry everything that is stated about it: `Slots.at`, the items under one index,
and `Slots.items`, all of them.  Each operation has its lemmas here that say what it does to these
views.  They hold of any list of entries, ordered or not, since `update` looks for an index among
all entries; so what is stated through the views asks nothing of the order.
-/

set_option autoImplicit false

namespace CryptoUsage

/-- Lists of items by index. -/
abbrev Slots (α : Type) := List (Int × List α)

namespace Slots

variable {α β : Type}

/-- The items filed under an index, in order; none if it has no list. -/
def «at» (slots : Slots α) (index : Int) : List α :=
  slots.flatMap fun (i, items) => if i = index then items else []

/-- The slots with the list of an index changed.  An index that has none gets the change of the
empty list. -/
def update (slots : Slots α) (index : Int) (change : List α → List α) : Slots α :=
  (slots.filter fun (i, _) => i < index) ++
    (index, change (Slots.at slots index)) :: (slots.filter fun (i, _) => index < i)

/-- The slots with one more item under an index, behind those that are there. -/
def push (slots : Slots α) (index : Int) (item : α) : Slots α :=
  slots.update index fun items => items ++ [item]

/-- The slots with an item under an index, unless it is there already. -/
def pushNew [BEq α] (slots : Slots α) (index : Int) (item : α) : Slots α :=
  slots.update index fun items => if items.contains item then items else items ++ [item]

/-- The slots with only some of the items.  A list of which nothing is left goes as well. -/
def retain (slots : Slots α) (keep : α → Bool) : Slots α :=
  (slots.map fun (i, items) => (i, items.filter keep)).filter fun (_, items) => !items.isEmpty

/-- The slots with another item for each. -/
def mapItems (f : α → β) (slots : Slots α) : Slots β :=
  slots.map fun (i, items) => (i, items.map f)

/-- All the items, by increasing index. -/
def items (slots : Slots α) : List α := slots.flatMap Prod.snd

/-- Whether there are items at all. -/
def hasItems (slots : Slots α) : Bool := slots.any fun (_, items) => !items.isEmpty

/-! ## The view by index -/

theorem mem_at {slots : Slots α} {index : Int} {item : α} :
    item ∈ Slots.at slots index ↔ ∃ items, (index, items) ∈ slots ∧ item ∈ items := by
  simp only [Slots.at, List.mem_flatMap, Prod.exists]
  constructor
  · rintro ⟨i, items, hentry, hitem⟩
    split at hitem
    · next hi => exact ⟨items, hi ▸ hentry, hitem⟩
    · cases hitem
  · rintro ⟨items, hentry, hitem⟩
    exact ⟨index, items, hentry, by rwa [if_pos rfl]⟩

theorem at_append (slots more : Slots α) (index : Int) :
    Slots.at (slots ++ more) index = Slots.at slots index ++ Slots.at more index :=
  List.flatMap_append

theorem at_cons (i : Int) (items : List α) (slots : Slots α) (index : Int) :
    Slots.at ((i, items) :: slots) index =
      (if i = index then items else []) ++ Slots.at slots index := rfl

/-- Restricting the slots to indices among which `index` is does not change what is filed under
it. -/
theorem at_filter_of_pos (p : Int → Bool) {index : Int} (h : p index = true) (slots : Slots α) :
    Slots.at (slots.filter fun (i, _) => p i) index = Slots.at slots index := by
  induction slots with
  | nil => rfl
  | cons entry slots ih =>
    obtain ⟨i, items⟩ := entry
    by_cases hi : i = index
    · subst hi
      simp [h, at_cons, ih]
    · by_cases hp : p i = true <;> simp [at_cons, hi, hp, ih]

/-- Restricting the slots to indices among which `index` is not leaves nothing under it. -/
theorem at_filter_of_neg (p : Int → Bool) {index : Int} (h : p index = false) (slots : Slots α) :
    Slots.at (slots.filter fun (i, _) => p i) index = [] := by
  refine List.eq_nil_iff_forall_not_mem.mpr fun item hitem => ?_
  obtain ⟨items, hentry, -⟩ := mem_at.mp hitem
  exact absurd (List.mem_filter.mp hentry).2 (by simp [h])

/-- Only the list of the index changes. -/
theorem at_update (slots : Slots α) (index : Int) (change : List α → List α) (other : Int) :
    Slots.at (slots.update index change) other =
      if other = index then change (Slots.at slots index) else Slots.at slots other := by
  rw [update, at_append, at_cons]
  rcases Int.lt_trichotomy other index with hlt | rfl | hgt
  · rw [at_filter_of_pos (· < index) (by simpa), at_filter_of_neg (index < ·) (by simp; omega),
      if_neg (by omega), if_neg (by omega), List.append_nil, List.append_nil]
  · rw [at_filter_of_neg (· < other) (by simp), at_filter_of_neg (other < ·) (by simp), if_pos rfl,
      if_pos rfl, List.append_nil, List.nil_append]
  · rw [at_filter_of_neg (· < index) (by simp; omega), at_filter_of_pos (index < ·) (by simpa),
      if_neg (by omega), if_neg (by omega), List.nil_append, List.nil_append]

/-- An item goes to the end of what is filed under its index. -/
theorem at_push_self (slots : Slots α) (index : Int) (item : α) :
    Slots.at (slots.push index item) index = Slots.at slots index ++ [item] := by
  rw [push, at_update, if_pos rfl]

/-- What is filed under other indices stays as it is. -/
theorem at_push_of_ne {index other : Int} (h : other ≠ index) (slots : Slots α) (item : α) :
    Slots.at (slots.push index item) other = Slots.at slots other := by
  rw [push, at_update, if_neg h]

theorem at_pushNew_self [BEq α] (slots : Slots α) (index : Int) (item : α) :
    Slots.at (slots.pushNew index item) index =
      if (Slots.at slots index).contains item then Slots.at slots index
      else Slots.at slots index ++ [item] := by
  rw [pushNew, at_update, if_pos rfl]

theorem at_pushNew_of_ne [BEq α] {index other : Int} (h : other ≠ index) (slots : Slots α)
    (item : α) : Slots.at (slots.pushNew index item) other = Slots.at slots other := by
  rw [pushNew, at_update, if_neg h]

theorem mem_at_push {slots : Slots α} {index i : Int} {item x : α} :
    x ∈ Slots.at (slots.push index item) i ↔ x ∈ Slots.at slots i ∨ (i = index ∧ x = item) := by
  by_cases hi : i = index
  · subst hi
    simp [at_push_self]
  · simp [at_push_of_ne hi, hi]

theorem at_retain (slots : Slots α) (keep : α → Bool) (index : Int) :
    Slots.at (slots.retain keep) index = (Slots.at slots index).filter keep := by
  induction slots with
  | nil => rfl
  | cons entry slots ih =>
    obtain ⟨i, items⟩ := entry
    have hentry : Slots.at (retain ((i, items) :: slots) keep) index =
        (if i = index then items.filter keep else []) ++ Slots.at (retain slots keep) index := by
      by_cases hnone : items.filter keep = [] <;> simp [retain, hnone, at_cons]
    rw [hentry, ih, at_cons, List.filter_append]
    split <;> rfl

theorem at_mapItems (f : α → β) (slots : Slots α) (index : Int) :
    Slots.at (slots.mapItems f) index = (Slots.at slots index).map f := by
  induction slots with
  | nil => rfl
  | cons entry slots ih =>
    obtain ⟨i, items⟩ := entry
    rw [mapItems, List.map_cons, at_cons, at_cons, List.map_append, ← ih, mapItems]
    split <;> rfl

/-! ## All the items -/

theorem mem_items {slots : Slots α} {item : α} :
    item ∈ slots.items ↔ ∃ index, item ∈ Slots.at slots index := by
  simp only [items, List.mem_flatMap, Prod.exists, mem_at]

theorem items_mapItems (f : α → β) (slots : Slots α) :
    (slots.mapItems f).items = slots.items.map f := by
  rw [items, items, mapItems, List.flatMap_map, List.map_flatMap]

theorem mapItems_congr {f g : α → β} {slots : Slots α} (h : ∀ item ∈ slots.items, f item = g item) :
    slots.mapItems f = slots.mapItems g := by
  refine List.map_congr_left fun entry hentry => congrArg (entry.1, ·) ?_
  exact List.map_congr_left fun item hitem => h item (List.mem_flatMap.mpr ⟨entry, hentry, hitem⟩)

theorem mapItems_mapItems {γ : Type} (f : α → β) (g : β → γ) (slots : Slots α) :
    (slots.mapItems f).mapItems g = slots.mapItems (g ∘ f) := by
  simp [mapItems]

theorem hasItems_iff {slots : Slots α} : slots.hasItems = true ↔ slots.items ≠ [] := by
  rw [hasItems, List.any_eq_true, items, ne_eq, List.flatMap_eq_nil_iff, Classical.not_forall]
  refine exists_congr fun entry => ?_
  rw [Classical.not_imp, Bool.not_eq_true', List.isEmpty_eq_false_iff]

end Slots

end CryptoUsage
