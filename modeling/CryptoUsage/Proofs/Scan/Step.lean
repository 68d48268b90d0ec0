import CryptoUsage.Proofs.Arena.Framing
import CryptoUsage.Proofs.Scan.Warrant

/-!
# The steps of the work for a root

Evaluating a rule and serving an observer both come down to a few small changes of the state, all
made on behalf of one root: a store is made for a rule that is followed, a store takes a site, a
value is filed, an observer is registered, and progress is told.  `Step` lists them, each with
what holds when it is made.

What a step keeps, a whole run of steps keeps.  So this is the place where it is proved that the
work for one root leaves the trees and the observers of all others alone (`Runs.works`,
`Runs.hooks_works`), and that there stays a reason for every store and for every observer
(`Runs.explained`).

## How it goes

* What is left alone.  A step adds to the tree of its root, and registers on behalf of that root.
  What it does to the store at a place is one of a few things (`Written`): the store is as it was,
  something was filed in it, it took a site, or it is new, for a rule that is followed or a value
  that is moved.
* Reasons.  `HasReason` has a case for each way in which a store can come to be there, and
  `Explained` asks for one for every store, for what every observer waits for, and for hooks that
  belong to the unit.  Going through the cases of `Written`, a step keeps the reasons of old
  stores, because what matched stays matched, and gives one to a new store, because it was made
  for a rule that is followed (`Step.hasReason`).
* Runs.  Each of these is carried through by induction on the steps.
-/

set_option autoImplicit false

namespace CryptoUsage

@[simp] theorem ScanState.withStores_stores (s : ScanState) (stores : Arena) :
    (s.withStores stores).stores = stores := rfl

namespace Scan

variable (scan : Scan)

/-- A store without a site is to take one. -/
structure MayTake (s : ScanState) (root id : StoreId) (store : Store) (rule : Rule)
    (site : Site) : Prop where
  store_eq : s.stores.store? id = some store
  root_eq : store.root = root
  unclaimed : store.site = none
  blank : store.IsBlank
  rule_eq : scan.catalog.rule? store.rule = some rule
  isMatch : rule.matcher.matches scan.unit site (rule.matchContext scan.config.matchSubtypes) = true
  fresh : s.stores.isClaimedOnPath id store.rule site = false
  shallow : store.level < scan.config.maxStoreDepth
  /-- The story that the store was made for leads to the site. -/
  leads : ∀ {p i}, store.parent = some (p, i) → ∃ aboveId above found,
    scan.Matched s root p aboveId above found ∧
      scan.Leads above found i store.rule store.hook site

/-- A value is to be filed for a detectable parameter of the rule that a store matched. -/
structure MayFile (s : ScanState) (root id : StoreId) (ruleId : RuleId) (index : Int)
    (moveUnder : Option Int) : Prop where
  detectable : ∃ rule site position parameter factory, scan.Matched s root id ruleId rule site ∧
    rule.parameters[position]? = some parameter ∧ parameter.role = .detectable factory ∧
    parameter.moveUnder = moveUnder ∧ index = (position : Nat)

/-- One thing that the work for a root does to the state of a scan. -/
inductive Step (root : StoreId) : ScanState → ScanState → Prop
  | plan (s : ScanState) : Step root s s.plan
  | start (s : ScanState) : Step root s s.start
  /-- A rule is followed from a matched store. -/
  | follow {s : ScanState} {parent : StoreId} {ruleId child : RuleId} {rule : Rule} {site : Site}
      {index : Int} {hook : Option HookOrigin}
      (matched : scan.Matched s root parent ruleId rule site)
      (follows : scan.Follows rule site index child hook)
      (rooted : ∀ origin, hook = some origin → origin.hookRoot = s.stores.hookRoot parent) :
      Step root s (s.withStores (s.stores.createChild parent index child hook).1)
  | take {s : ScanState} {id : StoreId} {store : Store} {rule : Rule} {site : Site}
      (may : scan.MayTake s root id store rule site) :
      Step root s (s.withStores
        (s.stores.modify id fun store => store.take site (scan.actionOf? rule site)))
  | file {s : ScanState} {id : StoreId} {ruleId : RuleId} {index : Int} (value : DetectedValue)
      (may : scan.MayFile s root id ruleId index none) :
      Step root s (s.withStores (s.stores.pushValue id index value))
  /-- A value is filed in a child of its own. -/
  | move {s : ScanState} {id : StoreId} {ruleId : RuleId} {index target : Int}
      (value : DetectedValue) (may : scan.MayFile s root id ruleId index (some target)) :
      Step root s (s.withStores ((s.stores.createChild id target ruleId none).1.pushValue
        s.stores.size index value))
  | wait {s : ScanState} {kind : HookKind} {observer : Observer}
      (requests : scan.Requests s kind observer) (root_eq : observer.root = root)
      (now : observer.registeredAt = s.position) :
      Step root s { s with hooks := (s.hooks.register kind observer).1 }

/-- Work for a root: any number of steps. -/
abbrev Runs (root : StoreId) : ScanState → ScanState → Prop :=
  Relation.ReflTransGen (scan.Step root)

variable {scan} {s s' : ScanState} {root : StoreId}

/-! ## What the work for a root leaves alone -/

theorem Step.position_eq (h : scan.Step root s s') : s'.position = s.position := by
  cases h <;> rfl

theorem Step.emitted_eq (h : scan.Step root s s') : s'.emitted = s.emitted := by
  cases h <;> rfl

theorem Step.reported_eq (h : scan.Step root s s') : s'.reported = s.reported := by
  cases h <;> rfl

theorem MayFile.store_eq {id : StoreId} {ruleId : RuleId} {index : Int} {moveUnder : Option Int}
    (h : scan.MayFile s root id ruleId index moveUnder) :
    ∃ store, s.stores.store? id = some store ∧ store.root = root := by
  obtain ⟨_, _, _, _, _, ⟨-, store, hid, hroot, -⟩, -⟩ := h.detectable
  exact ⟨store, hid, hroot⟩

/-- A step adds to the tree of its root and changes no other. -/
theorem Step.works (h : scan.Step root s s') : s.stores.Works root s'.stores := by
  cases h with
  | plan => exact .refl root s.stores
  | start => exact .refl root s.stores
  | follow matched follows rooted =>
    obtain ⟨above, habove, hroot, -⟩ := matched.store_eq
    exact Arena.works_createChild habove hroot ..
  | take may =>
    exact Arena.works_modify may.store_eq may.root_eq
      (Store.grows_take may.unclaimed may.blank.action ..)
  | file value may =>
    obtain ⟨store, hid, hroot⟩ := may.store_eq
    exact Arena.works_modify hid hroot (Store.grows_file ..)
  | move value may =>
    obtain ⟨store, hid, hroot⟩ := may.store_eq
    exact (Arena.works_createChild hid hroot ..).trans
      (Arena.works_modify (Arena.store?_createChild_new hid ..) hroot (Store.grows_file ..))
  | wait => exact .refl root s.stores

/-- A step registers observers on behalf of its root only. -/
theorem Step.hooks_works (h : scan.Step root s s') : s.hooks.Works root s'.hooks := by
  cases h with
  | wait requests root_eq now => exact HookRepository.works_register s.hooks _ root_eq
  | _ => exact .refl root s.hooks

/-- What a step does to the store at a place. -/
inductive Written (scan : Scan) (s : ScanState) (root id : StoreId) (new : Store) : Prop
  | kept (old_eq : s.stores.store? id = some new)
  /-- Something was filed in a store that matched. -/
  | filed {old : Store} {site : Site} (old_eq : s.stores.store? id = some old)
      (claimed : old.site = some site) (grows : old.Grows new)
  | taken {old : Store} {rule : Rule} {site : Site} (may : scan.MayTake s root id old rule site)
      (new_eq : new = old.take site (scan.actionOf? rule site))
  | followed {parent : StoreId} {above : Store} {ruleId child : RuleId} {rule : Rule} {site : Site}
      {index : Int} {hook : Option HookOrigin} (id_eq : id = s.stores.size)
      (matched : scan.Matched s root parent ruleId rule site)
      (follows : scan.Follows rule site index child hook)
      (rooted : ∀ origin, hook = some origin → origin.hookRoot = s.stores.hookRoot parent)
      (above_eq : s.stores.store? parent = some above)
      (new_eq : new = above.under id parent index child hook)
  | moved {parent : StoreId} {above : Store} {ruleId : RuleId} {index target : Int}
      {value : DetectedValue} (id_eq : id = s.stores.size)
      (may : scan.MayFile s root parent ruleId index (some target))
      (above_eq : s.stores.store? parent = some above)
      (new_eq : new = (above.under id parent target ruleId none).file index value)

theorem Matched.site_eq {id : StoreId} {ruleId : RuleId} {rule : Rule} {site : Site} {store : Store}
    (h : scan.Matched s root id ruleId rule site) (hid : s.stores.store? id = some store) :
    store.site = some site := by
  obtain ⟨-, store', hid', -, -, hsite⟩ := h
  cases hid.symm.trans hid'
  exact hsite

theorem Matched.root_eq {id : StoreId} {ruleId : RuleId} {rule : Rule} {site : Site} {store : Store}
    (h : scan.Matched s root id ruleId rule site) (hid : s.stores.store? id = some store) :
    store.root = root := by
  obtain ⟨-, store', hid', hroot, -⟩ := h
  cases hid.symm.trans hid'
  exact hroot

theorem Matched.rule?_eq {id : StoreId} {ruleId : RuleId} {rule : Rule} {site : Site}
    {store : Store} (h : scan.Matched s root id ruleId rule site)
    (hid : s.stores.store? id = some store) : scan.catalog.rule? store.rule = some rule := by
  obtain ⟨hrule, store', hid', -, hruleId, -⟩ := h
  cases hid.symm.trans hid'
  rw [hruleId, hrule]

/-- Everything that a step can do to the store at a place. -/
theorem Step.written (h : scan.Step root s s') {id : StoreId} {new : Store}
    (hid : s'.stores.store? id = some new) : scan.Written s root id new := by
  cases h with
  | follow matched follows rooted =>
    obtain ⟨above, habove, -⟩ := matched.store_eq
    rw [ScanState.withStores_stores, Arena.store?_createChild habove] at hid
    split at hid
    · next hnew =>
      subst hnew
      exact .followed rfl matched follows rooted habove (Option.some.inj hid).symm
    · split at hid
      · next hp =>
        cases hid
        exact .filed (hp ▸ habove) (matched.site_eq habove) (Store.grows_adopt ..)
      · exact .kept hid
  | take may =>
    rw [ScanState.withStores_stores, Arena.store?_modify] at hid
    split at hid
    · next hj =>
      rw [← hj, may.store_eq, Option.map_some] at hid
      exact .taken (hj ▸ may) (Option.some.inj hid).symm
    · exact .kept hid
  | file value may =>
    obtain ⟨_, _, _, _, _, matched, -⟩ := may.detectable
    obtain ⟨store, hj, -⟩ := may.store_eq
    rw [ScanState.withStores_stores, Arena.pushValue_eq, Arena.store?_modify] at hid
    split at hid
    · next heq =>
      subst heq
      rw [hj, Option.map_some] at hid
      cases hid
      exact .filed hj (matched.site_eq hj) (Store.grows_file ..)
    · exact .kept hid
  | move value may =>
    obtain ⟨_, _, _, _, _, matched, -⟩ := may.detectable
    obtain ⟨above, habove, -⟩ := may.store_eq
    rw [ScanState.withStores_stores, Arena.pushValue_eq, Arena.store?_modify,
      Arena.store?_createChild habove] at hid
    by_cases hnew : id = s.stores.size
    · subst hnew
      rw [if_pos rfl, if_pos rfl, Option.map_some] at hid
      exact .moved rfl may habove (Option.some.inj hid).symm
    · rw [if_neg (Ne.symm hnew), if_neg hnew] at hid
      split at hid
      · next hp =>
        cases hid
        exact .filed (hp ▸ habove) (matched.site_eq habove) (Store.grows_adopt ..)
      · exact .kept hid
  | _ => exact .kept hid

/-- A store is written to only for what its rule matched, or to match it. -/
theorem Step.unclaimed_eq (h : scan.Step root s s') {id : StoreId} {store store' : Store}
    (hid : s.stores.store? id = some store) (hid' : s'.stores.store? id = some store')
    (hsite : store'.site = none) : store' = store := by
  have hlt := Arena.lt_size_of_store? hid
  cases h.written hid' with
  | kept old_eq => exact Option.some.inj (old_eq.symm.trans hid)
  | filed old_eq claimed grows => rw [grows.site claimed] at hsite; cases hsite
  | taken may new_eq => rw [new_eq] at hsite; cases hsite
  | followed id_eq => exact absurd id_eq (Nat.ne_of_lt hlt)
  | moved id_eq => exact absurd id_eq (Nat.ne_of_lt hlt)

theorem Step.linked (h : scan.Step root s s') (hs : s.stores.Linked) : s'.stores.Linked := by
  cases h with
  | follow matched follows rooted =>
    obtain ⟨above, habove, -⟩ := matched.store_eq
    exact hs.createChild habove ..
  | take may => exact hs.modify _ (Store.keepsLinks_take ..)
  | file value may => exact hs.pushValue ..
  | move value may =>
    obtain ⟨store, hid, -⟩ := may.store_eq
    exact (hs.createChild hid ..).pushValue ..
  | _ => exact hs

/-! ## Reasons -/

variable (scan)

/-- The rule matches the site. -/
def Fits (ruleId : RuleId) (site : Site) : Prop :=
  ∃ rule, scan.catalog.rule? ruleId = some rule ∧
    rule.matcher.matches scan.unit site (rule.matchContext scan.config.matchSubtypes) = true

/-- Why a store is there. -/
inductive HasReason (s : ScanState) (store : Store) : Prop
  /-- A root rule was tried at a node. -/
  | tried (parent_eq : store.parent = none)
      (claimed : ∀ {found}, store.site = some found → scan.Fits store.rule found)
  /-- A rule was followed from the site that the store above it matched. -/
  | followed {p aboveId : StoreId} {i : Int} {above : Rule} {site : Site}
      (parent_eq : store.parent = some (p, i))
      (matched : scan.Matched s store.root p aboveId above site)
      (follows : scan.Follows above site i store.rule store.hook)
      (claimed : ∀ {found}, store.site = some found →
        scan.Fits store.rule found ∧ scan.Leads above site i store.rule store.hook found)
      (blank : store.site = none → store.IsBlank)
  /-- A value was moved. -/
  | moved {p : StoreId} {i : Int} {above : Rule} {site : Site} {position : Nat}
      {parameter : Parameter} {factory : ValueFactory} {value : DetectedValue}
      (parent_eq : store.parent = some (p, i))
      (matched : scan.Matched s store.root p store.rule above site)
      (parameter_eq : above.parameters[position]? = some parameter)
      (role_eq : parameter.role = .detectable factory) (target_eq : parameter.moveUnder = some i)
      (unclaimed : store.site = none) (values_eq : store.values = [((position : Int), [value])])
      (children_eq : store.children = []) (action_eq : store.action = none)

/-- There is a reason for everything that is in a state. -/
structure Explained (s : ScanState) : Prop where
  linked : s.stores.Linked
  rooted : s.stores.HooksRooted
  stores : ∀ ⦃id store⦄, s.stores.store? id = some store → scan.HasReason s store
  offers : ∀ kind ∈ s.hooks.kinds, scan.unit.Offers kind
  requests : ∀ ⦃kind number observer⦄, s.hooks.Waits kind number observer →
    scan.Requests s kind observer

variable {scan}

theorem HasReason.grows {store : Store} (h : scan.HasReason s store)
    (hg : s.stores.Grows s'.stores) : scan.HasReason s' store := by
  cases h with
  | tried parent_eq claimed => exact .tried parent_eq claimed
  | followed parent_eq matched follows claimed blank =>
    exact .followed parent_eq (matched.grows hg) follows claimed blank
  | moved parent_eq matched parameter_eq role_eq target_eq unclaimed values_eq children_eq
      action_eq =>
    exact .moved parent_eq (matched.grows hg) parameter_eq role_eq target_eq unclaimed values_eq
      children_eq action_eq

/-- What is filed in a store that matched does not change why it is there. -/
theorem HasReason.of_claimed {old new : Store} {site : Site} (h : scan.HasReason s old)
    (hg : old.Grows new) (hsite : old.site = some site) : scan.HasReason s new := by
  have hnew : new.site = old.site := (hg.site hsite).trans hsite.symm
  cases h with
  | tried parent_eq claimed =>
    refine .tried (hg.parent.trans parent_eq) fun hfound => ?_
    rw [hg.rule]
    exact claimed (hnew ▸ hfound)
  | followed parent_eq matched follows claimed blank =>
    refine .followed (hg.parent.trans parent_eq) (hg.root ▸ matched) ?_ (fun hfound => ?_)
      fun hnone => ?_
    · rw [hg.rule, hg.hook]
      exact follows
    · rw [hg.rule, hg.hook]
      exact claimed (hnew ▸ hfound)
    · rw [hnew, hsite] at hnone
      cases hnone
  | moved _ _ _ _ _ unclaimed => rw [hsite] at unclaimed; cases unclaimed

theorem Step.rooted (h : scan.Step root s s') (hl : s.stores.Linked) (hs : s.stores.HooksRooted) :
    s'.stores.HooksRooted := by
  refine hs.grows hl (h.linked hl) h.works.grows fun {id store origin} hid hnew hhook => ?_
  have hdead := Arena.store?_eq_none hnew
  cases h.written hid with
  | kept old_eq => rw [hdead] at old_eq; cases old_eq
  | filed old_eq => rw [hdead] at old_eq; cases old_eq
  | taken may => exact absurd may.store_eq (by simp [hdead])
  | followed id_eq matched follows rooted above_eq new_eq =>
    rw [new_eq] at hhook
    exact ⟨_, _, _, by rw [new_eq]; rfl, above_eq, rooted origin hhook⟩
  | moved id_eq may above_eq new_eq =>
    rw [new_eq, (Store.grows_file ..).hook] at hhook
    cases hhook

theorem MayTake.hasReason {id : StoreId} {store : Store} {rule : Rule} {site : Site}
    (h : scan.MayTake s root id store rule site) (action : Option DetectedValue) :
    scan.HasReason s (store.take site action) := by
  have hfits : ∀ {found}, (store.take site action).site = some found → found = site :=
    fun hfound => (Option.some.inj hfound).symm
  have hrule : scan.Fits store.rule site := ⟨rule, h.rule_eq, h.isMatch⟩
  cases hpar : store.parent with
  | none => exact .tried hpar fun hfound => hfits hfound ▸ hrule
  | some above =>
    obtain ⟨p, i⟩ := above
    obtain ⟨aboveId, above, at_, hmatched, hleads⟩ := h.leads hpar
    refine .followed hpar (?_ : scan.Matched s store.root p aboveId above at_) hleads.follows
      (fun hfound => ?_) fun hnone => ?_
    · exact h.root_eq ▸ hmatched
    · obtain rfl := hfits hfound
      exact ⟨hrule, hleads⟩
    · cases hnone

/-- A step leaves a reason for every store. -/
theorem Step.hasReason (h : scan.Step root s s') (hs : scan.Explained s) {id : StoreId}
    {store : Store} (hid : s'.stores.store? id = some store) : scan.HasReason s' store := by
  refine HasReason.grows ?_ h.works.grows
  cases h.written hid with
  | kept old_eq => exact hs.stores old_eq
  | filed old_eq claimed grows => exact (hs.stores old_eq).of_claimed grows claimed
  | taken may new_eq => exact new_eq ▸ may.hasReason _
  | followed id_eq matched follows rooted above_eq new_eq =>
    subst new_eq
    have hroot := matched.root_eq above_eq
    exact .followed rfl (hroot ▸ matched) follows (fun hfound => nomatch hfound)
      fun _ => Store.isBlank_under ..
  | moved id_eq may above_eq new_eq =>
    obtain ⟨rule, site, position, parameter, factory, matched, hparameter, hrole, htarget, rfl⟩ :=
      may.detectable
    have hroot := matched.root_eq above_eq
    rw [Store.file_of_nil rfl] at new_eq
    subst new_eq
    exact .moved rfl (hroot ▸ matched) hparameter hrole htarget rfl rfl rfl rfl

theorem Step.offers (h : scan.Step root s s') (hs : ∀ kind ∈ s.hooks.kinds, scan.unit.Offers kind) :
    ∀ kind ∈ s'.hooks.kinds, scan.unit.Offers kind := by
  cases h with
  | @wait kind observer requests root_eq now =>
    intro kind' hkind'
    rcases HookRepository.kinds_register s.hooks kind observer with heq | heq
    · exact hs kind' (heq ▸ hkind')
    · rw [heq, List.mem_append, List.mem_singleton] at hkind'
      rcases hkind' with hold | rfl
      · exact hs kind' hold
      · exact requests.1
  | _ => exact hs

/-- A step leaves a reason for every observer. -/
theorem Step.requests (h : scan.Step root s s') (hs : scan.Explained s) {kind : HookKind}
    {number : ObserverId} {observer : Observer} (hwaits : s'.hooks.Waits kind number observer) :
    scan.Requests s' kind observer := by
  refine Requests.grows ?_ h.works.grows (Nat.le_of_eq h.position_eq.symm)
  have hoffers := h.offers hs.offers kind hwaits.kind_mem
  cases h with
  | wait requests root_eq now =>
    rcases hwaits.of_register with hold | ⟨rfl, -, rfl | htarget⟩
    · exact hs.requests hold
    · exact requests
    · rwa [hoffers.eq_of_sameTarget requests.1 htarget]
  | _ => exact hs.requests hwaits

theorem Step.explained (h : scan.Step root s s') (hs : scan.Explained s) : scan.Explained s' where
  linked := h.linked hs.linked
  rooted := h.rooted hs.linked hs.rooted
  stores _ _ hid := h.hasReason hs hid
  offers := h.offers hs.offers
  requests _ _ _ hwaits := h.requests hs hwaits

/-! ## Runs -/

theorem Runs.position_eq (h : scan.Runs root s s') : s'.position = s.position := by
  induction h with
  | refl => rfl
  | tail _ hstep ih => exact hstep.position_eq.trans ih

theorem Runs.emitted_eq (h : scan.Runs root s s') : s'.emitted = s.emitted := by
  induction h with
  | refl => rfl
  | tail _ hstep ih => exact hstep.emitted_eq.trans ih

theorem Runs.reported_eq (h : scan.Runs root s s') : s'.reported = s.reported := by
  induction h with
  | refl => rfl
  | tail _ hstep ih => exact hstep.reported_eq.trans ih

/-- Work for a root adds to its tree and changes no other. -/
theorem Runs.works (h : scan.Runs root s s') : s.stores.Works root s'.stores := by
  induction h with
  | refl => exact .refl root s.stores
  | tail _ hstep ih => exact ih.trans hstep.works

/-- Work for a root registers observers on behalf of that root only. -/
theorem Runs.hooks_works (h : scan.Runs root s s') : s.hooks.Works root s'.hooks := by
  induction h with
  | refl => exact .refl root s.hooks
  | tail _ hstep ih => exact ih.trans hstep.hooks_works

theorem Runs.unclaimed_eq (h : scan.Runs root s s') {id : StoreId} {store store' : Store}
    (hid : s.stores.store? id = some store) (hid' : s'.stores.store? id = some store')
    (hsite : store'.site = none) : store' = store := by
  induction h generalizing store' with
  | refl => exact Option.some.inj (hid'.symm.trans hid)
  | tail hruns hstep ih =>
    obtain ⟨between, hbetween, -⟩ := (Runs.works hruns).grows hid
    obtain rfl := hstep.unclaimed_eq hbetween hid' hsite
    exact ih hbetween hsite

/-- Work for a root leaves a reason for everything. -/
theorem Runs.explained (h : scan.Runs root s s') (hs : scan.Explained s) : scan.Explained s' := by
  induction h with
  | refl => exact hs
  | tail _ hstep ih => exact hstep.explained ih

end Scan

end CryptoUsage
