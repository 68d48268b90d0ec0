import CryptoUsage.Proofs.Arena.Links

/-!
# What can become of an arena

An arena starts empty, and a history is any sequence of operations on stores that are live at the
time.  Each operation comes down to a few *moves*: a root or a child is made, a store is written to
without touching its links, the last stores are thrown away.  `Move mark` are the moves that spare
what stands before `mark`: they may file new children there, but write to no store of it otherwise
and throw none of it away.

What every move keeps, every history keeps.  `WellFormed` is what is kept whatever is written to:
links agree (`Linked`), children are filed in the order of their places, no value is filed twice
under one index, and no list is empty.  Filing keeps the last because an index gets its list
together with its first item, throwing stores away because a list that loses all its children goes
with them (`Linked.store?_truncate`).

An operation is followed through its moves (`Operation.moves`), which needs the store it is given to
be live.  From there on no operation is opened again: `Moves.wellFormed` is an induction over moves,
and `Reachable.wellFormed` is its case for the empty arena.
-/

set_option autoImplicit false

namespace CryptoUsage

namespace Store

/-- The store without the children that stand at a place or behind it. -/
def cut (store : Store) (mark : Nat) : Store :=
  { store with children := store.children.retain fun child => child < mark }

theorem id_cut (store : Store) (mark : Nat) : (store.cut mark).id = store.id := rfl

theorem values_cut (store : Store) (mark : Nat) : (store.cut mark).values = store.values := rfl

/-- Writing to a store in a way that leaves its links alone, files no value twice and makes no empty
list. -/
structure Writes (change : Store → Store) : Prop extends KeepsLinks change where
  values : ∀ store, Slots.Sorted (· ≠ ·) store.values → Slots.Sorted (· ≠ ·) (change store).values
  full : ∀ store, store.values.IsFull → (change store).values.IsFull

theorem writes_site (site : Site) : Writes fun store => { store with site := some site } :=
  ⟨keepsLinks_site site, fun _ h => h, fun _ h => h⟩

theorem writes_take (site : Site) (action : Option DetectedValue) :
    Writes fun store => store.take site action :=
  ⟨keepsLinks_take site action, fun _ h => h, fun _ h => h⟩

theorem writes_file (index : Int) (value : DetectedValue) :
    Writes fun store => store.file index value :=
  ⟨keepsLinks_file index value, fun _ h => h.pushNew index value,
    fun _ h => h.pushNew index value⟩

end Store

namespace Arena

variable {arena a b c : Arena} {mark : Nat}

/-! ## Well-formed arenas -/

/-- The links agree, children are filed in the order of their places, the values of one index are
different, and no index has an empty list of values. -/
structure WellFormed (arena : Arena) : Prop where
  linked : Linked arena
  children : ∀ ⦃id store⦄, arena.store? id = some store → Slots.Sorted (· < ·) store.children
  values : ∀ ⦃id store⦄, arena.store? id = some store → Slots.Sorted (· ≠ ·) store.values
  full : ∀ ⦃id store⦄, arena.store? id = some store → store.values.IsFull

theorem wellFormed_empty : WellFormed {} := by
  refine ⟨linked_empty, ?_, ?_, ?_⟩ <;> intro id store h <;> simp [store?] at h

theorem WellFormed.createRoot (h : WellFormed arena) (rule : RuleId) :
    WellFormed (arena.createRoot rule).1 := by
  refine ⟨h.linked.createRoot rule, fun id store hid => ?_, fun id store hid => ?_,
    fun id store hid => ?_⟩ <;> rcases store?_createRoot_cases hid with ⟨-, rfl⟩ | hold
  · exact .nil
  · exact h.children hold
  · exact .nil
  · exact h.values hold
  · exact Slots.isFull_nil
  · exact h.full hold

/-- A store after a child is made: the new one, the parent with a child more, or one that was there
before. -/
theorem store?_createChild_eq {parent : StoreId} {above : Store}
    (habove : arena.store? parent = some above) {index : Int} {rule : RuleId}
    {hook : Option HookOrigin} {id : StoreId} {store : Store}
    (hid : (arena.createChild parent index rule hook).1.store? id = some store) :
    store = above.under arena.size parent index rule hook ∨ store = above.adopt index arena.size ∨
      arena.store? id = some store := by
  rw [store?_createChild habove] at hid
  split at hid
  · exact .inl (Option.some.inj hid).symm
  · split at hid
    · exact .inr (.inl (Option.some.inj hid).symm)
    · exact .inr (.inr hid)

/-- A new child stands behind all that are filed already. -/
theorem WellFormed.createChild (h : WellFormed arena) {parent : StoreId} {above : Store}
    (habove : arena.store? parent = some above) (index : Int) (rule : RuleId)
    (hook : Option HookOrigin) : WellFormed (arena.createChild parent index rule hook).1 := by
  have hbehind : ∀ child ∈ Slots.at above.children index, child < arena.size := by
    intro child hchild
    obtain ⟨below, hbelow, -⟩ := (h.linked.child habove).mp hchild
    exact lt_size_of_store? hbelow
  refine ⟨h.linked.createChild habove index rule hook, fun id store hid => ?_,
    fun id store hid => ?_, fun id store hid => ?_⟩ <;>
    rcases store?_createChild_eq habove hid with rfl | rfl | hold
  · exact .nil
  · exact (h.children habove).push hbehind
  · exact h.children hold
  · exact .nil
  · rw [Store.values_adopt]
    exact h.values habove
  · exact h.values hold
  · exact Slots.isFull_nil
  · rw [Store.values_adopt]
    exact h.full habove
  · exact h.full hold

theorem WellFormed.modify (h : WellFormed arena) (id : StoreId) {change : Store → Store}
    (hchange : Store.Writes change) : WellFormed (arena.modify id change) := by
  have hcases : ∀ {j store}, (arena.modify id change).store? j = some store →
      ∃ old, arena.store? j = some old ∧ (store = change old ∨ store = old) := by
    intro j store hj
    rw [store?_modify] at hj
    split at hj
    · obtain ⟨old, hold, rfl⟩ := Option.map_eq_some_iff.mp hj
      exact ⟨old, hold, .inl rfl⟩
    · exact ⟨store, hj, .inr rfl⟩
  refine ⟨h.linked.modify id hchange.toKeepsLinks,
    fun j store hj => ?_, fun j store hj => ?_, fun j store hj => ?_⟩ <;>
    obtain ⟨old, hold, rfl | rfl⟩ := hcases hj
  · exact hchange.children old ▸ h.children hold
  · exact h.children hold
  · exact hchange.values old (h.values hold)
  · exact h.values hold
  · exact hchange.full old (h.full hold)
  · exact h.full hold

/-! ### Throwing stores away -/

theorem Linked.cut_eq (h : Linked arena) {id : StoreId} {store : Store}
    (hid : arena.store? id = some store) (hmark : arena.size ≤ mark) : store.cut mark = store := by
  have hall : store.children.retain (fun child => decide (child < mark)) = store.children := by
    refine (h.full hid).retain_eq_self fun c hc => decide_eq_true ?_
    obtain ⟨i, hc⟩ := Slots.mem_items.mp hc
    obtain ⟨below, hbelow, -⟩ := (h.child hid).mp hc
    exact Nat.lt_of_lt_of_le (lt_size_of_store? hbelow) hmark
  rw [Store.cut, hall]

/-- What is left when stores are thrown away: those before the mark, without the children that stood
behind it. -/
theorem Linked.store?_truncate (h : Linked arena) (mark : Nat) (id : StoreId) :
    (arena.truncate mark).store? id =
      if id < mark then (arena.store? id).map (·.cut mark) else none := by
  rcases Nat.lt_or_ge id mark with hlt | hge
  · rw [if_pos hlt]
    rcases Nat.lt_or_ge mark arena.size with hmark | hmark
    · have hbound : id < min mark arena.stores.size - 0 :=
        Nat.lt_min.mpr ⟨hlt, Nat.lt_trans hlt hmark⟩
      rw [truncate, if_neg (Nat.not_le_of_lt hmark), store?, store?, Array.getElem?_map,
        Array.take_eq_extract, Array.getElem?_extract, if_pos hbound, Nat.zero_add]
      rfl
    · rw [truncate, if_pos hmark]
      cases hid : arena.store? id with
      | none => rfl
      | some store => rw [Option.map_some, h.cut_eq hid hmark]
  · rw [if_neg (Nat.not_lt_of_le hge)]
    refine store?_eq_none (Nat.le_trans ?_ hge)
    rw [size_truncate]
    exact Nat.min_le_left ..

theorem Linked.store?_truncate_cases (h : Linked arena) {id : StoreId} {store : Store}
    (hid : (arena.truncate mark).store? id = some store) :
    id < mark ∧ ∃ old, arena.store? id = some old ∧ store = old.cut mark := by
  rw [h.store?_truncate] at hid
  split at hid
  · next hlt =>
    obtain ⟨old, hold, rfl⟩ := Option.map_eq_some_iff.mp hid
    exact ⟨hlt, old, hold, rfl⟩
  · cases hid

theorem Linked.truncate (h : Linked arena) (mark : Nat) : Linked (arena.truncate mark) where
  self hid := by
    obtain ⟨-, old, hold, rfl⟩ := h.store?_truncate_cases hid
    exact (old.id_cut mark).trans (h.self hold)
  root hid hpar := by
    obtain ⟨-, old, hold, rfl⟩ := h.store?_truncate_cases hid
    have hroot := h.root hold hpar
    exact hroot
  parent hid hpar := by
    obtain ⟨hlt, old, hold, rfl⟩ := h.store?_truncate_cases hid
    obtain ⟨hbefore, above, habove, hlevel, hroot⟩ := h.parent hold hpar
    refine ⟨hbefore, above.cut mark, ?_, hlevel, hroot⟩
    rw [h.store?_truncate, if_pos (Nat.lt_trans hbefore hlt), habove, Option.map_some]
  child {p above i c} hp := by
    obtain ⟨-, old, hold, rfl⟩ := h.store?_truncate_cases hp
    have hfiled : c ∈ Slots.at (old.cut mark).children i ↔
        c ∈ Slots.at old.children i ∧ c < mark := by
      rw [Store.cut, Slots.at_retain, List.mem_filter, decide_eq_true_iff]
    rw [hfiled, h.child hold]
    constructor
    · rintro ⟨⟨below, hbelow, hpar⟩, hlt⟩
      refine ⟨below.cut mark, ?_, hpar⟩
      rw [h.store?_truncate, if_pos hlt, hbelow, Option.map_some]
    · rintro ⟨store, hc, hpar⟩
      obtain ⟨hlt, below, hbelow, rfl⟩ := h.store?_truncate_cases hc
      exact ⟨⟨below, hbelow, hpar⟩, hlt⟩
  full hid := by
    obtain ⟨-, old, hold, rfl⟩ := h.store?_truncate_cases hid
    exact Slots.isFull_retain _ _

theorem WellFormed.truncate (h : WellFormed arena) (mark : Nat) :
    WellFormed (arena.truncate mark) := by
  refine ⟨h.linked.truncate mark, fun id store hid => ?_, fun id store hid => ?_,
    fun id store hid => ?_⟩ <;> obtain ⟨-, old, hold, rfl⟩ := h.linked.store?_truncate_cases hid
  · exact (h.children hold).retain _
  · rw [Store.values_cut]
    exact h.values hold
  · rw [Store.values_cut]
    exact h.full hold

/-! ## Moves -/

/-- A single change of an arena that spares what stands before a mark. -/
inductive Move (mark : Nat) : Arena → Arena → Prop
  | root (a : Arena) (rule : RuleId) : Move mark a (a.createRoot rule).1
  | child {a : Arena} {parent : StoreId} {above : Store} (live : a.store? parent = some above)
      (index : Int) (rule : RuleId) (hook : Option HookOrigin) :
      Move mark a (a.createChild parent index rule hook).1
  | write (a : Arena) {id : StoreId} {change : Store → Store} (spared : mark ≤ id)
      (writes : Store.Writes change) : Move mark a (a.modify id change)
  | cut (a : Arena) {place : Nat} (spared : mark ≤ place) : Move mark a (a.truncate place)

/-- Any number of moves. -/
abbrev Moves (mark : Nat) : Arena → Arena → Prop := Relation.ReflTransGen (Move mark)

theorem Move.wellFormed (h : Move mark a b) (ha : WellFormed a) : WellFormed b := by
  cases h with
  | root rule => exact ha.createRoot rule
  | child live index rule hook => exact ha.createChild live index rule hook
  | write spared writes => exact ha.modify _ writes
  | cut spared => exact ha.truncate _

theorem Moves.wellFormed (h : Moves mark a b) (ha : WellFormed a) : WellFormed b := by
  induction h with
  | refl => exact ha
  | tail _ hmove ih => exact hmove.wellFormed ih

/-! ## Operations -/

/-- An operation on an arena, with what it is given. -/
inductive Operation where
  | createRoot (rule : RuleId)
  | createChild (parent : StoreId) (index : Int) (rule : RuleId) (hook : Option HookOrigin)
  | claim (id : StoreId) (site : Site)
  | receiveMethod (id : StoreId) (site : Site) (action : Option DetectedValue)
  | receiveValue (id : StoreId) (index : Int) (moveUnder : Option Int) (value : DetectedValue)
  | truncate (mark : Nat)

namespace Operation

/-- The arena after an operation. -/
def run (a : Arena) : Operation → Arena
  | createRoot rule => (a.createRoot rule).1
  | createChild parent index rule hook => (a.createChild parent index rule hook).1
  | claim id site => (a.claim id site).1
  | receiveMethod id site action => a.receiveMethod id site action
  | receiveValue id index moveUnder value => (a.receiveValue id index moveUnder value).1
  | truncate mark => a.truncate mark

/-- The store that an operation is given is live. -/
def IsLive (a : Arena) : Operation → Prop
  | createChild id _ _ _ | claim id _ | receiveMethod id _ _ | receiveValue id _ _ _ => id < a.size
  | createRoot _ | truncate _ => True

/-- An operation makes stores, under whatever parent, or writes to a store at a mark or behind it;
and it throws nothing away that stands before the mark. -/
def Spares (mark : Nat) (a : Arena) : Operation → Prop
  | createRoot _ | createChild _ _ _ _ => True
  | claim id site => mark ≤ (a.claim id site).2
  | receiveMethod id _ _ => mark ≤ id
  | receiveValue id index moveUnder value => mark ≤ (a.receiveValue id index moveUnder value).2
  | truncate place => mark ≤ place

/-- Making a sibling is a move. -/
theorem moves_createSibling (ha : Linked a) {id : StoreId} {store : Store}
    (hid : a.store? id = some store) : Move mark a (a.createSibling store).1 := by
  rw [createSibling]
  cases hpar : store.parent with
  | none => exact .root a store.rule
  | some place =>
    obtain ⟨parent, index⟩ := place
    obtain ⟨-, above, habove, -⟩ := ha.parent hid hpar
    exact .child habove index store.rule store.hook

/-- **Every operation comes down to moves.** -/
theorem moves (ha : Linked a) {op : Operation} (hlive : op.IsLive a) (hspares : op.Spares mark a) :
    Moves mark a (op.run a) := by
  cases op with
  | createRoot rule => exact .single (.root a rule)
  | createChild parent index rule hook =>
    obtain ⟨above, habove⟩ := exists_store? hlive
    exact .single (.child habove index rule hook)
  | claim id site =>
    obtain ⟨store, hid⟩ := exists_store? hlive
    simp only [Spares, Arena.claim, hid] at hspares
    simp only [run, Arena.claim, hid]
    split at hspares
    · next hfree =>
      rw [if_pos hfree]
      exact .single (.write a hspares (Store.writes_site site))
    · next htaken =>
      rw [if_neg htaken]
      exact (Relation.ReflTransGen.single (moves_createSibling ha hid)).tail
        (.write _ hspares (Store.writes_site site))
  | receiveMethod id site action =>
    exact .single (.write a hspares (Store.writes_take site action))
  | receiveValue id index moveUnder value =>
    obtain ⟨store, hid⟩ := exists_store? hlive
    cases moveUnder with
    | none => exact .single (.write a hspares (Store.writes_file index value))
    | some target =>
      simp only [Spares, Arena.receiveValue, hid] at hspares
      simp only [run, Arena.receiveValue, hid]
      exact (Relation.ReflTransGen.single (.child hid target store.rule none)).tail
        (.write _ hspares (Store.writes_file index value))
  | truncate place => exact .single (.cut a hspares)

end Operation

/-- One arena becomes another one by operations on stores that are live at the time, and what stands
before the mark is spared. -/
def Becomes (mark : Nat) : Arena → Arena → Prop :=
  Relation.ReflTransGen fun a b =>
    ∃ op : Operation, op.IsLive a ∧ op.Spares mark a ∧ b = op.run a

theorem Becomes.moves (h : Becomes mark a b) (ha : WellFormed a) : Moves mark a b := by
  induction h with
  | refl => exact .refl
  | tail _ hstep ih =>
    obtain ⟨op, hlive, hspares, rfl⟩ := hstep
    exact ih.trans (Operation.moves (ih.wellFormed ha).linked hlive hspares)

/-- An arena that becomes of the empty one by operations on stores that are live at the time. -/
def Reachable (arena : Arena) : Prop :=
  Relation.ReflTransGen (fun a b => ∃ op : Operation, op.IsLive a ∧ b = op.run a) {} arena

/-- Nothing stands before the first place, so every operation spares it. -/
theorem Reachable.becomes (h : Reachable arena) : Becomes 0 {} arena := by
  refine Relation.ReflTransGen.mono (fun a b hstep => ?_) _ _ h
  obtain ⟨op, hlive, heq⟩ := hstep
  refine ⟨op, hlive, ?_, heq⟩
  cases op with
  | createRoot | createChild => exact trivial
  | _ => exact Nat.zero_le _

theorem Reachable.wellFormed (h : Reachable arena) : WellFormed arena :=
  (h.becomes.moves wellFormed_empty).wellFormed wellFormed_empty

end Arena
end CryptoUsage
