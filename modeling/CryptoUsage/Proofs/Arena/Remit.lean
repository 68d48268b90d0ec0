import CryptoUsage.Proofs.Arena.Ancestry

/-!
# What a piece of work may write to

Following a rule makes new stores and works on these; of the stores that stood before, it writes
to few, and there only in few ways.  A `Remit` says to which and how: everything from a mark on,
and before the mark the stores that may get children and the indices under which values may be
filed.  The mark is mostly the end of the arena when the work began.

`Spares` says that an arena became another one within a remit.  What is not in the remit is then
as it was, and so in particular are the claims on the way up from a store before the mark
(`Spares.isClaimedOnPath_eq`).

## What is here

* `Respects` is the relation for one store, and it and `Spares` are reflexive and transitive, so
  work that is put together from pieces stays within the remit if the pieces do.
* `Fits`, `IsOpen` and `Owns` say of an arena and of a store what work needs before it starts:
  that the links agree and the mark is within the arena, that a store may get children, and that
  it may be worked on as a whole.  All of them are kept (`Fits.spares`, `IsOpen.spares`,
  `Owns.spares`).
* The operations stay within a remit that allows them.  A claim is the one that may do more than
  it seems: if the store has a site already, it makes a sibling, which needs the parent to be
  open; the store that has the site afterwards is owned again (`Owns.claim`).
-/

set_option autoImplicit false

namespace CryptoUsage

/-- What a piece of work may write to.  With stores at the mark or behind it, it may do anything. -/
structure Remit where
  mark : StoreId
  /-- The stores before the mark that may get children. -/
  adopts : StoreId → Prop
  /-- The stores before the mark in which values may be filed, and the index. -/
  files : StoreId → Int → Prop

namespace Remit

variable (remit : Remit)

/-- A store may get children. -/
def MayAdopt (id : StoreId) : Prop := remit.mark ≤ id ∨ remit.adopts id

/-- Values may be filed in a store under an index. -/
def MayFile (id : StoreId) (index : Int) : Prop := remit.mark ≤ id ∨ remit.files id index

/-- A store was written to within the remit. -/
structure Respects (id : StoreId) (old new : Store) : Prop where
  place : Store.SamePlace old new
  rule : new.rule = old.rule
  site : id < remit.mark → new.site = old.site
  values : ∀ {index}, ¬ remit.MayFile id index →
    Slots.at new.values index = Slots.at old.values index
  children : ¬ remit.MayAdopt id → new.children = old.children

/-- An arena became another one within the remit. -/
structure Spares (a b : Arena) : Prop where
  linked : a.Linked → b.Linked
  stores : ∀ {id old}, a.store? id = some old →
    ∃ new, b.store? id = some new ∧ remit.Respects id old new

/-- An arena has links that agree and holds everything before the mark. -/
structure Fits (arena : Arena) : Prop where
  linked : arena.Linked
  mark_le : remit.mark ≤ arena.size

/-- A store is there and may get children. -/
structure IsOpen (arena : Arena) (id : StoreId) : Prop where
  mayAdopt : remit.MayAdopt id
  store_eq : ∃ store, arena.store? id = some store

/-- A store may be worked on as a whole, and its parent may get further children. -/
structure Owns (arena : Arena) (id : StoreId) : Prop where
  mark_le : remit.mark ≤ id
  store_eq : ∃ store, arena.store? id = some store ∧
    ∀ {p i}, store.parent = some (p, i) → remit.MayAdopt p

/-- Anything may be done to any store. -/
def everything : Remit where
  mark := 0
  adopts _ := True
  files _ _ := True

variable {remit} {a b c : Arena} {id : StoreId} {store : Store}

theorem Respects.refl (id : StoreId) (store : Store) : remit.Respects id store store :=
  ⟨⟨rfl, rfl, rfl, rfl⟩, rfl, fun _ => rfl, fun _ => rfl, fun _ => rfl⟩

theorem Respects.trans {old between new : Store} (h : remit.Respects id old between)
    (h' : remit.Respects id between new) : remit.Respects id old new where
  place :=
    ⟨h'.place.id.trans h.place.id, h'.place.level.trans h.place.level,
      h'.place.parent.trans h.place.parent, h'.place.root.trans h.place.root⟩
  rule := h'.rule.trans h.rule
  site hlt := (h'.site hlt).trans (h.site hlt)
  values hnot := (h'.values hnot).trans (h.values hnot)
  children hnot := (h'.children hnot).trans (h.children hnot)

theorem Spares.refl (a : Arena) : remit.Spares a a :=
  ⟨fun h => h, fun h => ⟨_, h, .refl _ _⟩⟩

theorem Spares.trans (hab : remit.Spares a b) (hbc : remit.Spares b c) : remit.Spares a c where
  linked h := hbc.linked (hab.linked h)
  stores h := by
    obtain ⟨between, hbetween, hrespects⟩ := hab.stores h
    obtain ⟨new, hnew, hrespects'⟩ := hbc.stores hbetween
    exact ⟨new, hnew, hrespects.trans hrespects'⟩

theorem Spares.size_le (h : remit.Spares a b) : a.size ≤ b.size := by
  refine Nat.le_of_not_lt fun hlt => ?_
  obtain ⟨store, hstore⟩ := Arena.exists_store? hlt
  obtain ⟨new, hnew, -⟩ := h.stores hstore
  exact Nat.lt_irrefl _ (Arena.lt_size_of_store? hnew)

theorem Fits.spares (h : remit.Fits a) (hspares : remit.Spares a b) : remit.Fits b :=
  ⟨hspares.linked h.linked, Nat.le_trans h.mark_le hspares.size_le⟩

theorem fits_everything (h : a.Linked) : everything.Fits a :=
  ⟨h, Nat.zero_le _⟩

theorem IsOpen.spares (h : remit.IsOpen a id) (hspares : remit.Spares a b) : remit.IsOpen b id := by
  obtain ⟨store, hstore⟩ := h.store_eq
  obtain ⟨new, hnew, -⟩ := hspares.stores hstore
  exact ⟨h.mayAdopt, new, hnew⟩

theorem Owns.spares (h : remit.Owns a id) (hspares : remit.Spares a b) : remit.Owns b id := by
  obtain ⟨store, hstore, hparent⟩ := h.store_eq
  obtain ⟨new, hnew, hrespects⟩ := hspares.stores hstore
  exact ⟨h.mark_le, new, hnew, fun hpar => hparent (hrespects.place.parent ▸ hpar)⟩

theorem Owns.isOpen (h : remit.Owns a id) : remit.IsOpen a id := by
  obtain ⟨store, hstore, -⟩ := h.store_eq
  exact ⟨.inl h.mark_le, store, hstore⟩

theorem Owns.mayFile (h : remit.Owns a id) (index : Int) : remit.MayFile id index :=
  .inl h.mark_le

/-! ## Operations within the remit -/

theorem spares_createRoot (a : Arena) (rule : RuleId) : remit.Spares a (a.createRoot rule).1 where
  linked h := h.createRoot rule
  stores h := by
    rw [Arena.store?_createRoot, if_neg (Nat.ne_of_lt (Arena.lt_size_of_store? h))]
    exact ⟨_, h, .refl _ _⟩

theorem spares_createChild {parent : StoreId} {above : Store} (h : a.store? parent = some above)
    (may : remit.MayAdopt parent) (index : Int) (rule : RuleId) (hook : Option HookOrigin) :
    remit.Spares a (a.createChild parent index rule hook).1 where
  linked hlinked := hlinked.createChild h index rule hook
  stores {id old} hid := by
    rw [Arena.store?_createChild h, if_neg (Nat.ne_of_lt (Arena.lt_size_of_store? hid))]
    split
    · next hp =>
      subst hp
      cases hid.symm.trans h
      exact ⟨_, rfl, ⟨rfl, rfl, rfl, rfl⟩, rfl, fun _ => rfl, fun _ => rfl,
        fun hnot => absurd may hnot⟩
    · exact ⟨old, hid, .refl _ _⟩

/-- Writing anything but links, as far as the remit goes. -/
theorem spares_modify {change : Store → Store}
    (hchildren : ∀ store, (change store).children = store.children)
    (h : ∀ store, remit.Respects id store (change store)) :
    remit.Spares a (a.modify id change) where
  linked hlinked := hlinked.modify id ⟨fun store => (h store).place, hchildren⟩
  stores {j old} hj := by
    rw [Arena.store?_modify]
    split
    · next hid => exact ⟨_, by rw [hj, Option.map_some], hid ▸ h old⟩
    · exact ⟨old, hj, .refl _ _⟩

theorem spares_pushValue {index : Int} (may : remit.MayFile id index) (value : DetectedValue) :
    remit.Spares a (a.pushValue id index value) := by
  refine spares_modify (fun store => rfl) fun store =>
    ⟨⟨rfl, rfl, rfl, rfl⟩, rfl, fun _ => rfl, fun {other} hnot => ?_, fun _ => rfl⟩
  refine Slots.at_pushNew_of_ne ?_ _ _
  rintro rfl
  exact hnot may

theorem spares_receiveValue {index : Int} {moveUnder : Option Int}
    (may : remit.MayFile id index) (moves : moveUnder ≠ none → remit.MayAdopt id)
    (hmark : remit.mark ≤ a.size) (value : DetectedValue) :
    remit.Spares a (a.receiveValue id index moveUnder value).1 := by
  cases moveUnder with
  | none => exact spares_pushValue may value
  | some target =>
    rw [Arena.receiveValue]
    split
    · exact .refl a
    · next hid =>
      exact (spares_createChild hid (moves nofun) ..).trans (spares_pushValue (.inl hmark) value)

/-- Giving a site to a store behind the mark. -/
theorem spares_take (hid : remit.mark ≤ id) {change : Store → Store}
    (h : ∀ store, ∃ site action, change store = { store with site, action }) :
    remit.Spares a (a.modify id change) := by
  refine spares_modify (fun store => ?_) fun store => ?_ <;>
    obtain ⟨site, action, heq⟩ := h store <;> rw [heq]
  exact ⟨⟨rfl, rfl, rfl, rfl⟩, rfl, fun hlt => absurd hid (Nat.not_le_of_lt hlt), fun _ => rfl,
    fun _ => rfl⟩

/-- A site that is claimed for a store of the remit goes to such a store. -/
theorem Owns.claim (h : remit.Owns a id) (hfits : remit.Fits a) (site : Site) :
    remit.Spares a (a.claim id site).1 ∧ remit.Owns (a.claim id site).1 (a.claim id site).2 := by
  obtain ⟨store, hid, hparent⟩ := h.store_eq
  have htake {arena : Arena} {target : StoreId} (htarget : remit.mark ≤ target) :
      remit.Spares arena (arena.modify target fun store => { store with site := some site }) :=
    spares_take htarget fun _ => ⟨_, _, rfl⟩
  simp only [Arena.claim, hid]
  split
  · exact ⟨htake h.mark_le, h.spares (htake h.mark_le)⟩
  · have hmade : remit.Spares a (a.createSibling store).1 ∧
        remit.Owns (a.createSibling store).1 (a.createSibling store).2 := by
      rw [Arena.createSibling]
      split
      · next p i hpar =>
        obtain ⟨-, above, habove, -⟩ := hfits.linked.parent hid hpar
        refine ⟨spares_createChild habove (hparent hpar) .., hfits.mark_le, _,
          Arena.store?_createChild_new habove .., fun hpar' => ?_⟩
        obtain ⟨rfl, -⟩ := Prod.mk.inj (Option.some.inj hpar')
        exact hparent hpar
      · refine ⟨spares_createRoot a _, hfits.mark_le, Arena.rootStore store.rule a.size, ?_, ?_⟩
        · rw [Arena.store?_createRoot, Arena.createRoot_snd, if_pos rfl]
        · simp [Arena.rootStore]
    obtain ⟨hspares, howns⟩ := hmade
    exact ⟨hspares.trans (htake howns.mark_le), howns.spares (htake howns.mark_le)⟩

/-! ## Claims on the way up -/

/-- The claims on the way up from a store before the mark are as they were. -/
theorem Spares.isClaimedOnPath_eq (h : remit.Spares a b) (ha : a.Linked) {rule : RuleId}
    {site : Site} : ∀ {store : Store}, a.store? id = some store → id < remit.mark →
      b.isClaimedOnPath id rule site = a.isClaimedOnPath id rule site := by
  induction id using Nat.strongRecOn with
  | ind id ih =>
    intro store hid hlt
    obtain ⟨new, hnew, hrespects⟩ := h.stores hid
    have hself : b.hasClaimed rule site id = a.hasClaimed rule site id := by
      rw [Arena.hasClaimed, Arena.hasClaimed, hid, hnew, Option.any_some, Option.any_some,
        hrespects.rule, hrespects.site hlt]
    rw [Arena.isClaimedOnPath, Arena.isClaimedOnPath, (h.linked ha).ancestry_eq hnew,
      ha.ancestry_eq hid, hrespects.place.parent, List.any_cons, List.any_cons, hself]
    cases hpar : store.parent with
    | none => rfl
    | some above =>
      obtain ⟨p, i⟩ := above
      obtain ⟨hp, above, habove, -⟩ := ha.parent hid hpar
      exact congrArg (a.hasClaimed rule site id || ·) (ih p hp habove (Nat.lt_trans hp hlt))

end Remit
end CryptoUsage
