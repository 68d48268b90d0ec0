import CryptoUsage.Proofs.Catalog.Depth
import CryptoUsage.Proofs.Scan.Soundness

/-!
# How deep stores are nested

A store takes a site only if it is not too deep, and if no store above it has the site for the
same rule (`MayTake`).  Nothing is ever filed below a store that has not matched, so whoever is
above a store has a site already and keeps it: what was free when a site was taken stays free
(`Nested`, `Step.nested`), and on a way up no two stores have the same site for the same rule
(`Nested.claimsApart`).

That holds in every state of a scan, also in those that the work for a root goes through before an
event is done with (`Occurs`).  Apart from the limit on the depth, the levels are bounded by the
rules: a rule that is followed is referred to by the rule of the store above, and only a value
that is moved goes one level deeper without a rule (`Explained.level_le_depth`).

## How it goes

* What is above a store.  As stores have reasons, a store with another one below it has matched
  (`Explained.exists_matched`), and so has everything further up.
* Nesting.  Of the steps, one gives a site to a store, and there the conditions of `MayTake` are
  what is to be shown.  All the others change no site that is there.
* Levels.  `Explained.level_add_depth_le` goes down from the root: one level more is paid for by
  one reference less that can still be followed.
-/

set_option autoImplicit false

namespace CryptoUsage

/-- Of some stores, no two have the same site for the same rule. -/
def Arena.ClaimsApart (arena : Arena) (ids : List StoreId) : Prop :=
  ids.Pairwise fun a b => ∀ {below above : Store} {site : Site},
    arena.store? a = some below → arena.store? b = some above →
    below.site = some site → above.site = some site → below.rule ≠ above.rule

/-- A store holds nothing but the value of a parameter that the rule above it moves there. -/
structure Store.HoldsMoved (store : Store) (ruleId : RuleId) (rule : Rule) (index : Int) :
    Prop where
  rule_eq : store.rule = ruleId
  site_eq : store.site = none
  children_eq : store.children = []
  values_eq : ∃ (position : Nat) (parameter : Parameter) (value : DetectedValue),
    rule.parameters[position]? = some parameter ∧ parameter.moveUnder = some index ∧
      store.values = [((position : Int), [value])]

namespace Scan

variable {scan : Scan} {s s' : ScanState} {root id p : StoreId} {i : Int} {store : Store}

/-! ## What is above a store -/

/-- Nothing is above a store but stores that matched. -/
theorem Explained.exists_matched (hs : scan.Explained s) (hid : s.stores.store? id = some store)
    (hpar : store.parent = some (p, i)) :
    ∃ aboveId above site, scan.Matched s store.root p aboveId above site := by
  cases hs.stores hid with
  | tried parent_eq =>
    rw [parent_eq] at hpar
    cases hpar
  | followed parent_eq matched =>
    obtain ⟨rfl, rfl⟩ := Prod.mk.inj (Option.some.inj (parent_eq.symm.trans hpar))
    exact ⟨_, _, _, matched⟩
  | moved parent_eq matched =>
    obtain ⟨rfl, rfl⟩ := Prod.mk.inj (Option.some.inj (parent_eq.symm.trans hpar))
    exact ⟨_, _, _, matched⟩

theorem Explained.claimed_of_mem_ancestry (hs : scan.Explained s) {j : StoreId} :
    ∀ {store : Store}, s.stores.store? id = some store → store.site ≠ none →
      j ∈ s.stores.ancestry id → ∃ above, s.stores.store? j = some above ∧ above.site ≠ none := by
  induction id using Nat.strongRecOn with
  | ind id ih =>
    intro store hid hsite hj
    rw [hs.linked.ancestry_eq hid] at hj
    rcases List.mem_cons.mp hj with rfl | hj
    · exact ⟨store, hid, hsite⟩
    · cases hpar : store.parent with
      | none => simp [hpar] at hj
      | some above =>
        obtain ⟨p, i⟩ := above
        simp only [hpar] at hj
        obtain ⟨hlt, above, habove, -⟩ := hs.linked.parent hid hpar
        obtain ⟨_, _, _, hmatched⟩ := hs.exists_matched hid hpar
        exact ih p hlt habove (by rw [hmatched.site_eq habove]; nofun) hj

/-- What was claimed above a store does not change any more. -/
theorem Explained.isClaimedOnPath_grows (hs : scan.Explained s) (hg : s.stores.Grows s'.stores)
    (hlinked : s'.stores.Linked) (hid : s.stores.store? id = some store)
    (hpar : store.parent = some (p, i)) (rule : RuleId) (site : Site) :
    s'.stores.isClaimedOnPath p rule site = s.stores.isClaimedOnPath p rule site := by
  obtain ⟨-, above, habove, -⟩ := hs.linked.parent hid hpar
  obtain ⟨_, _, _, hmatched⟩ := hs.exists_matched hid hpar
  have hclaimed : above.site ≠ none := by rw [hmatched.site_eq habove]; nofun
  rw [Arena.isClaimedOnPath, Arena.isClaimedOnPath, hg.ancestry_eq hs.linked hlinked habove,
    Bool.eq_iff_iff, List.any_eq_true, List.any_eq_true]
  refine exists_congr fun j => and_congr_right fun hj => ?_
  obtain ⟨far, hfar, hsite⟩ := hs.claimed_of_mem_ancestry habove hclaimed hj
  obtain ⟨at_, hat⟩ := Option.ne_none_iff_exists'.mp hsite
  obtain ⟨far', hfar', hgrows⟩ := hg hfar
  rw [Arena.hasClaimed, Arena.hasClaimed, hfar, hfar', Option.any_some, Option.any_some,
    hgrows.rule, hgrows.site hat, hat]

/-! ## Nesting -/

variable (scan) in
/-- No store that has a site is too deep or has above it another one with the site for the same
rule. -/
structure Nested (s : ScanState) : Prop where
  shallow : ∀ ⦃id store⦄, s.stores.store? id = some store → store.site ≠ none →
    store.level < scan.config.maxStoreDepth
  free : ∀ ⦃id store site p i⦄, s.stores.store? id = some store → store.site = some site →
    store.parent = some (p, i) → s.stores.isClaimedOnPath p store.rule site = false

theorem nested_empty : scan.Nested {} where
  shallow _ _ hid := by simp [Arena.store?] at hid
  free _ _ _ _ _ hid := by simp [Arena.store?] at hid

theorem Nested.congr (h : scan.Nested s) (hstores : s'.stores = s.stores) : scan.Nested s' where
  shallow := hstores ▸ h.shallow
  free := hstores ▸ h.free

/-- A step keeps stores nested: a site is only taken where its claim is free. -/
theorem Step.nested (h : scan.Step root s s') (hs : scan.Explained s) (hn : scan.Nested s) :
    scan.Nested s' := by
  have hlinked := h.linked hs.linked
  have hpath : ∀ {id store p i rule site}, s.stores.store? id = some store →
      store.parent = some (p, i) → s'.stores.isClaimedOnPath p rule site =
        s.stores.isClaimedOnPath p rule site :=
    fun hid hpar => hs.isClaimedOnPath_grows h.works.grows hlinked hid hpar _ _
  constructor
  · intro id store hid hsite
    cases h.written hid with
    | kept old_eq => exact hn.shallow old_eq hsite
    | filed old_eq claimed grows =>
      rw [grows.level]
      exact hn.shallow old_eq (by rw [claimed]; nofun)
    | taken may new_eq =>
      rw [new_eq]
      exact may.shallow
    | followed _ _ _ _ _ new_eq => exact absurd (new_eq ▸ rfl) hsite
    | moved _ _ _ new_eq =>
      rw [new_eq, Store.file_of_nil rfl] at hsite
      exact absurd rfl hsite
  · intro id store site p i hid hsite hpar
    cases h.written hid with
    | kept old_eq =>
      rw [hpath old_eq hpar]
      exact hn.free old_eq hsite hpar
    | filed old_eq claimed grows =>
      obtain rfl := Option.some.inj ((grows.site claimed).symm.trans hsite)
      rw [hpath old_eq (grows.parent ▸ hpar), grows.rule]
      exact hn.free old_eq claimed (grows.parent ▸ hpar)
    | taken may new_eq =>
      subst new_eq
      obtain rfl := Option.some.inj hsite
      rw [hpath may.store_eq hpar]
      exact hs.linked.isClaimedOnPath_parent may.store_eq hpar may.fresh
    | followed _ _ _ _ _ new_eq =>
      subst new_eq
      cases hsite
    | moved _ _ _ new_eq =>
      rw [new_eq, Store.file_of_nil rfl] at hsite
      cases hsite

theorem Runs.nested (h : scan.Runs root s s') (hs : scan.Explained s) (hn : scan.Nested s) :
    scan.Nested s' := by
  induction h with
  | refl => exact hn
  | tail hruns hstep ih => exact hstep.nested (Runs.explained hruns hs) ih

theorem Nested.plant (h : scan.Nested s) (hs : scan.Explained s) (rule : RuleId) :
    scan.Nested (plant s rule) := by
  constructor
  · intro id store hid hsite
    rcases store?_plant_cases hid with ⟨-, rfl⟩ | hold
    · exact absurd rfl hsite
    · exact h.shallow hold hsite
  · intro id store site p i hid hsite hpar
    rcases store?_plant_cases hid with ⟨-, rfl⟩ | hold
    · cases hsite
    · rw [hs.isClaimedOnPath_grows (works_plant s rule).grows (hs.plant rule).linked hold hpar]
      exact h.free hold hsite hpar

theorem Nested.handle (h : scan.Nested s) (hs : scan.Explained s) {event : HookEvent}
    (hdue : scan.Due s event) : scan.Nested (scan.handle s event) := by
  rcases handle_cases hs hdue with heq | ⟨_, _, s', hooks, -, hruns, -, heq⟩ <;> rw [heq]
  · exact h
  · exact (hruns.nested hs h).congr (stores_emitIfDetected ..)

theorem Nested.tryRoot (h : scan.Nested s) (hs : scan.Explained s) (n : NodeId) (rule : RuleId) :
    scan.Nested (scan.tryRoot n s rule) := by
  obtain ⟨s', hruns, heq | ⟨heq, -⟩⟩ := tryRoot_cases hs n rule <;> rw [heq]
  · exact (hruns.nested (hs.plant rule) (h.plant hs rule)).congr (stores_emitIfDetected ..)
  · exact h.congr rfl

theorem nested_kept (scan : Scan) : scan.Kept fun s => scan.Sound s ∧ scan.Nested s where
  empty := ⟨sound_empty, nested_empty⟩
  meet _ := fun ⟨hs, h⟩ => ⟨hs.congr rfl rfl (Nat.le_succ _) rfl, h.congr rfl⟩
  serve _ hdue := fun ⟨hs, h⟩ =>
    ⟨⟨(hs.handle hdue).1, h.handle hs.explained hdue⟩, (hs.handle hdue).2⟩
  attempt _ _ := fun ⟨hs, h⟩ => ⟨hs.tryRoot .., h.tryRoot hs.explained ..⟩

/-- Along a way up, no two stores have the same site for the same rule. -/
theorem Nested.claimsApart (hn : scan.Nested s) (hs : scan.Explained s) :
    ∀ {store : Store}, s.stores.store? id = some store →
      s.stores.ClaimsApart (s.stores.ancestry id) := by
  induction id using Nat.strongRecOn with
  | ind id ih =>
    intro store hid
    rw [hs.linked.ancestry_eq hid]
    cases hpar : store.parent with
    | none => exact List.pairwise_singleton ..
    | some parent =>
      obtain ⟨p, i⟩ := parent
      obtain ⟨hlt, parent, hparent, -⟩ := hs.linked.parent hid hpar
      refine List.pairwise_cons.mpr ⟨fun b hb below above site hbelow habove hsite hsite' heq => ?_,
        ih p hlt hparent⟩
      cases hid.symm.trans hbelow
      have hfree := Arena.isClaimedOnPath_eq_false.mp (hn.free hid hsite hpar) b hb
      rw [Arena.hasClaimed, habove, Option.any_some, heq, hsite', beq_self_eq_true,
        beq_self_eq_true] at hfree
      cases hfree

/-! ## Every state of a scan -/

variable (scan) in
/-- The states of a scan: those before and after its events, and those that the work for a root goes
through while an observer is served or a root rule is tried. -/
inductive Occurs : ScanState → Prop
  | before {s s' : ScanState} (advances : scan.Advances s s') : Occurs s
  | after {s s' : ScanState} (advances : scan.Advances s s') : Occurs s'
  | serving {s between : ScanState} {event : HookEvent} {root : StoreId}
      (advances : scan.Advances s (scan.handle s event)) (runs : scan.Runs root s between) :
      Occurs between
  | trying {s between : ScanState} {n : NodeId} {rule : RuleId}
      (advances : scan.Advances s (scan.tryRoot n s rule))
      (runs : scan.Runs s.stores.size (plant s rule) between) : Occurs between

theorem Occurs.nested (h : scan.Occurs s) : scan.Explained s ∧ scan.Nested s := by
  cases h with
  | before advances =>
    obtain ⟨⟨hs, hn⟩, -⟩ := advances.cases_of_kept (nested_kept scan)
    exact ⟨hs.explained, hn⟩
  | after advances =>
    obtain ⟨-, ⟨hs, hn⟩, -⟩ := advances.cases_of_kept (nested_kept scan)
    exact ⟨hs.explained, hn⟩
  | serving advances runs =>
    obtain ⟨⟨hs, hn⟩, -⟩ := advances.cases_of_kept (nested_kept scan)
    exact ⟨runs.explained hs.explained, runs.nested hs.explained hn⟩
  | @trying s _ _ rule advances runs =>
    obtain ⟨⟨hs, hn⟩, -⟩ := advances.cases_of_kept (nested_kept scan)
    have hplanted := hs.explained.plant rule
    exact ⟨runs.explained hplanted, runs.nested hplanted (hn.plant hs.explained rule)⟩

/-! ## Links -/

theorem Follows.mem_references {above : Rule} {site : Site} {rule : RuleId}
    {hook : Option HookOrigin} (h : scan.Follows above site i rule hook) :
    rule ∈ above.references := by
  cases h with
  | next isNext => exact Rule.mem_references_iff.mpr (.inl isNext)
  | depending parameter_eq role_eq isDepending =>
    exact Rule.mem_references_iff.mpr
      (.inr ⟨_, List.mem_of_getElem? parameter_eq, _, role_eq, isDepending⟩)

/-- A store is for a rule to which the rule above it refers, or holds a value that was moved. -/
theorem Explained.follows_or_moved (hs : scan.Explained s)
    (hid : s.stores.store? id = some store) (hpar : store.parent = some (p, i)) :
    ∃ above rule, s.stores.store? p = some above ∧ scan.catalog.rule? above.rule = some rule ∧
      ((store.rule ∈ rule.next ∨ ∃ parameter ∈ rule.parameters, ∃ rules,
          parameter.role = .depending rules ∧ store.rule ∈ rules) ∨
        store.HoldsMoved above.rule rule i) := by
  obtain ⟨-, above, habove, -⟩ := hs.linked.parent hid hpar
  cases hs.stores hid with
  | tried parent_eq =>
    rw [parent_eq] at hpar
    cases hpar
  | followed parent_eq matched follows =>
    obtain ⟨rfl, rfl⟩ := Prod.mk.inj (Option.some.inj (parent_eq.symm.trans hpar))
    exact ⟨above, _, habove, matched.rule?_eq habove,
      .inl (Rule.mem_references_iff.mp follows.mem_references)⟩
  | moved parent_eq matched parameter_eq role_eq target_eq unclaimed values_eq children_eq =>
    obtain ⟨rfl, rfl⟩ := Prod.mk.inj (Option.some.inj (parent_eq.symm.trans hpar))
    obtain ⟨hrule, above', habove', -, hruleId, -⟩ := matched
    cases habove.symm.trans habove'
    exact ⟨above, _, habove, hruleId ▸ hrule, .inr ⟨hruleId.symm, unclaimed, children_eq, _, _, _,
      parameter_eq, target_eq, values_eq⟩⟩

/-! ## Levels -/

/-- No store is deeper than the limit. -/
theorem Nested.level_le (h : scan.Nested s) (hs : scan.Explained s)
    (hid : s.stores.store? id = some store) : store.level ≤ scan.config.maxStoreDepth := by
  cases hpar : store.parent with
  | none =>
    rw [(hs.linked.root hid hpar).1]
    exact Nat.zero_le _
  | some above =>
    obtain ⟨p, i⟩ := above
    obtain ⟨-, above, habove, hlevel, -⟩ := hs.linked.parent hid hpar
    obtain ⟨_, _, _, hmatched⟩ := hs.exists_matched hid hpar
    rw [hlevel]
    exact h.shallow habove (by rw [hmatched.site_eq habove]; nofun)

/-- Every reference that was followed on the way to a store that matched is one of the rule of its
root. -/
theorem Explained.level_add_depth_le (hs : scan.Explained s) {top : Store} :
    ∀ {store : Store}, s.stores.store? id = some store → store.site ≠ none →
      s.stores.store? store.root = some top →
      store.level + scan.catalog.depth store.rule ≤ scan.catalog.depth top.rule := by
  induction id using Nat.strongRecOn with
  | ind id ih =>
    intro store hid hsite htop
    cases hs.stores hid with
    | tried parent_eq =>
      obtain ⟨hlevel, hroot⟩ := hs.linked.root hid parent_eq
      rw [hroot, hid] at htop
      cases htop
      rw [hlevel, Nat.zero_add]
    | followed parent_eq matched follows =>
      obtain ⟨hlt, above, habove, hlevel, hroot⟩ := hs.linked.parent hid parent_eq
      have hbelow := Catalog.depth_lt_of_mem_references (matched.rule?_eq habove)
        follows.mem_references
      have hrest := ih _ hlt habove (by rw [matched.site_eq habove]; nofun) (hroot ▸ htop)
      omega
    | moved _ _ _ _ _ unclaimed => exact absurd unclaimed hsite

/-- **Levels are bounded by the rules**: no store is more than one level deeper than the rule of its
root. -/
theorem Explained.level_le_depth (hs : scan.Explained s) {top : Store}
    (hid : s.stores.store? id = some store) (htop : s.stores.store? store.root = some top) :
    store.level ≤ scan.catalog.depth top.rule + 1 := by
  cases hpar : store.parent with
  | none =>
    rw [(hs.linked.root hid hpar).1]
    exact Nat.zero_le _
  | some above =>
    obtain ⟨p, i⟩ := above
    obtain ⟨-, above, habove, hlevel, hroot⟩ := hs.linked.parent hid hpar
    obtain ⟨_, _, _, hmatched⟩ := hs.exists_matched hid hpar
    have habove' := hs.level_add_depth_le habove (by rw [hmatched.site_eq habove]; nofun)
      (hroot ▸ htop)
    omega

end Scan
end CryptoUsage
