import CryptoUsage.Proofs.Arena.Renaming

/-!
# The same work in two arenas

When the stores of one arena stand in another one as well, the same operations can be carried out
in both, on a store here and on the one that stands for it there.  `Mirrors f a b` is what has to
hold before, and it holds again afterwards, for a renaming that is *prolonged* by the new stores:
renamings are only added to, and what they are added to was not in use.

Stores and observers are both numbered in the order in which they are made, so the first section
is about numbers of either kind.

## What is here

* `Stands f count x y`: the number `x` stands for `y`.  `Prolongs` says that a renaming was added
  to.  It is transitive, and which of the old numbers stand for something never changes
  (`Prolongs.stands_iff`); so facts about numbers from before need not be proved again after each
  step.
* `Mirrors` is `Embeds` of the arenas, with both in order, and `Mirrored` says of two operations
  that they do the same: they lead to arenas that mirror each other again, and the stores they
  give stand for each other.
* Each operation is mirrored: `createRoot`, `createChild`, `modify` and the ones made of these
  (`createSibling`, `claim`, `receiveValue`).  Where a hook brings a store about, its origin has
  to stand for the other one's (`OriginStands`).
-/

set_option autoImplicit false

namespace CryptoUsage

/-! ## Renamings of numbers in use -/

/-- The number `x` stands for `y`, which is one of the first `count` numbers. -/
structure Stands (f : Nat → Nat) (count x y : Nat) : Prop where
  lt : y < count
  eq : f y = x

/-- Whether a number stands for one of the first `count` numbers. -/
def isImage (f : Nat → Nat) (count x : Nat) : Bool := (List.range count).any fun y => f y == x

theorem isImage_iff {f : Nat → Nat} {count x : Nat} :
    isImage f count x = true ↔ ∃ y, Stands f count x y := by
  rw [isImage, List.any_eq_true]
  constructor
  · rintro ⟨y, hy, heq⟩
    exact ⟨y, List.mem_range.mp hy, eq_of_beq heq⟩
  · rintro ⟨y, hy, heq⟩
    exact ⟨y, List.mem_range.mpr hy, beq_iff_eq.mpr heq⟩

theorem isImage_of_lt (f : Nat → Nat) {count y : Nat} (hy : y < count) :
    isImage f count (f y) = true := isImage_iff.mpr ⟨y, hy, rfl⟩

theorem isImage_eq_false {f : Nat → Nat} {count x : Nat} :
    isImage f count x = false ↔ ∀ y, ¬ Stands f count x y := by
  rw [← Bool.not_eq_true, isImage_iff, not_exists]

/-- A renaming of the first `b` numbers to some of the first `a` ones is prolonged to the first `b'`
numbers: it is the same on the old ones, and gives new numbers for the new ones. -/
structure Prolongs (f : Nat → Nat) (a b : Nat) (f' : Nat → Nat) (a' b' : Nat) : Prop where
  target_le : a ≤ a'
  source_le : b ≤ b'
  eq : ∀ {y}, y < b → f' y = f y
  ge : ∀ {y}, b ≤ y → y < b' → a ≤ f' y

namespace Prolongs

variable {f f' f'' : Nat → Nat} {a b a' b' a'' b'' x y : Nat}

theorem refl (f : Nat → Nat) (a b : Nat) : Prolongs f a b f a b :=
  ⟨Nat.le_refl a, Nat.le_refl b, fun _ => rfl, fun hge hlt => by omega⟩

theorem trans (h : Prolongs f a b f' a' b') (h' : Prolongs f' a' b' f'' a'' b'') :
    Prolongs f a b f'' a'' b'' where
  target_le := Nat.le_trans h.target_le h'.target_le
  source_le := Nat.le_trans h.source_le h'.source_le
  eq hy := (h'.eq (Nat.lt_of_lt_of_le hy h.source_le)).trans (h.eq hy)
  ge {y} hge hlt := by
    by_cases hold : y < b'
    · rw [h'.eq hold]
      exact h.ge hge hold
    · have htarget := h.target_le
      have hnew := h'.ge (Nat.not_lt.mp hold) hlt
      omega

/-- Only the target has more numbers. -/
theorem of_le (f : Nat → Nat) (b : Nat) (h : a ≤ a') : Prolongs f a b f a' b :=
  ⟨h, Nat.le_refl b, fun _ => rfl, fun hge hlt => by omega⟩

/-- The next number of either side stands for that of the other. -/
theorem update (f : Nat → Nat) (a b : Nat) :
    Prolongs f a b (Function.update f b a) (a + 1) (b + 1) where
  target_le := Nat.le_succ a
  source_le := Nat.le_succ b
  eq hy := Function.update_of_ne (by omega) ..
  ge {y} hge hlt := by
    have hself : Function.update f b a b = a := Function.update_self ..
    have hy : y = b := by omega
    rw [hy]
    omega

theorem stands (h : Prolongs f a b f' a' b') (hy : Stands f b x y) : Stands f' b' x y :=
  ⟨Nat.lt_of_lt_of_le hy.lt h.source_le, (h.eq hy.lt).trans hy.eq⟩

/-- Which of the old numbers stand for something does not change. -/
theorem stands_iff (h : Prolongs f a b f' a' b') (hx : x < a) :
    Stands f' b' x y ↔ Stands f b x y := by
  constructor
  · intro hy
    have heq : f' y = x := hy.eq
    by_cases hold : y < b
    · exact ⟨hold, (h.eq hold).symm.trans heq⟩
    · have hge := h.ge (Nat.not_lt.mp hold) hy.lt
      omega
  · exact h.stands

theorem isImage_eq (h : Prolongs f a b f' a' b') (hx : x < a) :
    isImage f' b' x = isImage f b x := by
  rw [Bool.eq_iff_iff, isImage_iff, isImage_iff]
  exact exists_congr fun _ => h.stands_iff hx

end Prolongs

namespace Arena

variable {a b : Arena} {f : StoreId → StoreId} {x y : StoreId}

/-! ## Operations on both -/

/-- The stores of `b` stand in `a`, and both arenas are in order. -/
structure Mirrors (f : StoreId → StoreId) (a b : Arena) : Prop where
  linked : a.Linked
  linked' : b.Linked
  live : b.HooksLive
  embeds : Embeds f a b

/-- Two operations, that each give an arena and a store of it, do the same. -/
def Mirrored (f : StoreId → StoreId) (a b : Arena) (p q : Arena × StoreId) : Prop :=
  ∃ f', Prolongs f a.size b.size f' p.1.size q.1.size ∧ Mirrors f' p.1 q.1 ∧
    Stands f' q.1.size p.2 q.2

/-- An origin stands for another one. -/
structure OriginStands (f : StoreId → StoreId) (count : Nat) (origin' origin : Option HookOrigin) :
    Prop where
  lt : ∀ from_ ∈ origin, from_.hookRoot < count
  eq : origin' = origin.map (HookOrigin.rename f)

theorem OriginStands.none (f : StoreId → StoreId) (count : Nat) : OriginStands f count none none :=
  ⟨nofun, rfl⟩

theorem OriginStands.prolong {f' : StoreId → StoreId} {m n m' n' : Nat}
    {origin' origin : Option HookOrigin} (h : OriginStands f n origin' origin)
    (hf : Prolongs f m n f' m' n') : OriginStands f' n' origin' origin := by
  refine ⟨fun from_ hfrom => Nat.lt_of_lt_of_le (h.lt from_ hfrom) hf.source_le, ?_⟩
  rw [h.eq]
  refine Option.map_congr ?_
  intro from_ hfrom
  rw [HookOrigin.rename, HookOrigin.rename, hf.eq (h.lt from_ hfrom)]

namespace Mirrors

/-- The store that stands for a store. -/
theorem exists_store (h : Mirrors f a b) (hx : Stands f b.size x y) :
    ∃ store, b.store? y = some store ∧ a.store? x = some (store.rename f) := by
  obtain ⟨store, hstore⟩ := exists_store? hx.lt
  exact ⟨store, hstore, hx.eq ▸ h.embeds.store_eq hstore⟩

theorem mirrored (h : Mirrors f a b) (hx : Stands f b.size x y) :
    Mirrored f a b (a, x) (b, y) := ⟨f, .refl .., h, hx⟩

theorem createRoot (h : Mirrors f a b) (rule : RuleId) :
    Mirrored f a b (a.createRoot rule) (b.createRoot rule) := by
  have hf : Prolongs f a.size b.size (extend f a b) (a.createRoot rule).1.size
      (b.createRoot rule).1.size := by
    rw [size_createRoot, size_createRoot]
    exact .update f a.size b.size
  refine ⟨extend f a b, hf, ⟨h.linked.createRoot rule, h.linked'.createRoot rule,
    h.live.createRoot rule, h.embeds.createRoot h.linked' h.live rule⟩, ?_, extend_self f a b⟩
  rw [size_createRoot]
  exact Nat.lt_succ_self b.size

theorem createChild (h : Mirrors f a b) (hx : Stands f b.size x y) (index : Int) (rule : RuleId)
    {origin' origin : Option HookOrigin} (horigin : OriginStands f b.size origin' origin) :
    Mirrored f a b (a.createChild x index rule origin') (b.createChild y index rule origin) := by
  obtain ⟨above, habove, habove'⟩ := h.exists_store hx
  have hf : Prolongs f a.size b.size (extend f a b) (a.createChild x index rule origin').1.size
      (b.createChild y index rule origin).1.size := by
    rw [size_createChild, size_createChild]
    exact .update f a.size b.size
  refine ⟨extend f a b, hf, ⟨h.linked.createChild habove' .., h.linked'.createChild habove ..,
    h.live.createChild habove index rule horigin.lt, ?_⟩, ?_, ?_⟩
  · rw [← hx.eq, horigin.eq]
    exact h.embeds.createChild h.linked' h.live habove index rule horigin.lt
  · rw [size_createChild]
    exact Nat.lt_succ_self b.size
  · exact extend_self f a b

/-- Writing anything but links. -/
theorem modify (h : Mirrors f a b) (hx : Stands f b.size x y) (change : Store → Store)
    (hchange : Store.KeepsLinks change)
    (hhook : ∀ store, (change store).hook = store.hook)
    (hrename : ∀ store, (change store).rename f = change (store.rename f)) :
    Mirrors f (a.modify x change) (b.modify y change) := by
  refine ⟨h.linked.modify x hchange, h.linked'.modify y hchange, h.live.modify y hhook, ?_⟩
  rw [← hx.eq]
  exact h.embeds.modify hx.lt hrename

theorem pushValue (h : Mirrors f a b) (hx : Stands f b.size x y) (index : Int)
    (value : DetectedValue) : Mirrors f (a.pushValue x index value) (b.pushValue y index value) :=
  h.modify hx (fun store => store.file index value) (Store.keepsLinks_file index value)
    (fun store => (store.grows_file index value).hook) fun store => store.rename_file f index value

theorem receiveMethod (h : Mirrors f a b) (hx : Stands f b.size x y) (site : Site)
    (action : Option DetectedValue) :
    Mirrors f (a.receiveMethod x site action) (b.receiveMethod y site action) :=
  h.modify hx _ (Store.keepsLinks_take site action) (fun _ => rfl) fun _ => rfl

theorem createSibling (h : Mirrors f a b) {store : Store} (hy : b.store? y = some store) :
    Mirrored f a b (a.createSibling (store.rename f)) (b.createSibling store) := by
  rw [Arena.createSibling, Arena.createSibling]
  cases hpar : store.parent with
  | none =>
    have hpar' : (store.rename f).parent = none := by rw [Store.rename, hpar]; rfl
    rw [hpar']
    exact h.createRoot store.rule
  | some above =>
    obtain ⟨p, i⟩ := above
    have hpar' : (store.rename f).parent = some (f p, i) := by rw [Store.rename, hpar]; rfl
    rw [hpar']
    obtain ⟨-, above, habove, -⟩ := h.linked'.parent hy hpar
    exact h.createChild ⟨lt_size_of_store? habove, rfl⟩ i store.rule
      ⟨fun origin horigin => h.live hy horigin, rfl⟩

theorem claim (h : Mirrors f a b) (hx : Stands f b.size x y) (site : Site) :
    Mirrored f a b (a.claim x site) (b.claim y site) := by
  obtain ⟨store, hy, hx'⟩ := h.exists_store hx
  have hgiven : Mirrored f a b
      (if store.site.all (· == site) then (a, x) else a.createSibling (store.rename f))
      (if store.site.all (· == site) then (b, y) else b.createSibling store) := by
    split
    · exact h.mirrored hx
    · exact h.createSibling hy
  obtain ⟨f', hf, hmirrors, hstands⟩ := hgiven
  simp only [Arena.claim, hy, hx']
  refine ⟨f', ?_, ?_, ?_⟩
  · rw [size_modify, size_modify]
    exact hf
  · exact hmirrors.modify hstands _ (Store.keepsLinks_site site) (fun _ => rfl) fun _ => rfl
  · rw [size_modify]
    exact hstands

theorem receiveValue (h : Mirrors f a b) (hx : Stands f b.size x y) (index : Int)
    (moveUnder : Option Int) (value : DetectedValue) :
    Mirrored f a b (a.receiveValue x index moveUnder value)
      (b.receiveValue y index moveUnder value) := by
  cases moveUnder with
  | none =>
    simp only [Arena.receiveValue]
    refine ⟨f, ?_, h.pushValue hx index value, ?_⟩
    · rw [size_pushValue, size_pushValue]
      exact .refl ..
    · rw [size_pushValue]
      exact hx
  | some target =>
    obtain ⟨store, hy, hx'⟩ := h.exists_store hx
    obtain ⟨f', hf, hmirrors, hstands⟩ := h.createChild hx target store.rule (.none f b.size)
    simp only [Arena.receiveValue, hy, hx']
    refine ⟨f', ?_, hmirrors.pushValue hstands index value, ?_⟩
    · rw [size_pushValue, size_pushValue]
      exact hf
    · rw [size_pushValue]
      exact hstands

end Mirrors

end Arena
end CryptoUsage
