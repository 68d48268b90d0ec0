import CryptoUsage.Proofs.Resolution.Sources
import CryptoUsage.Proofs.Scan.Collecting

/-!
# Values that are read at once

If the argument at a matched site has constants, then its values are filed when the site is given
to a store, and nobody waits for more.  From then on the place is settled: what is evaluated later
works on other places (`evaluate_settles`).

While a store takes its site its own places are not settled yet, and evaluations are nested.  So
the invariant leaves out the places that are busy (`SettledBut`), and it is kept by whatever
touches busy places only (`Touches`).

## How it goes

* Settled places.  `ReadsAtOnce` says that an argument has constants and which values the factory
  makes of them, and `Holds` that a store has just these values under an index while nobody asks
  for more.  A place is settled if the first gives the second.
* Touching.  A change touches busy places only if every other store keeps its site and what it
  holds, and if nobody asks for values elsewhere who did not ask before.  New stores have no site,
  so making one touches nothing; filing and asking touch the place that they are for.
* Values and rules.  Looking for the value of an argument is busy at one place
  (`SettledBut.detectValue`).  A rule that is followed gets a new store, so the theorems go up the
  definitions with the same busy places.
* A rule at a site.  The store that is given the site is busy as a whole until its arguments were
  read (`SettledBut.pursue`); then what is to be read at once is there (`holds_pursue`), by the
  remits of what was done before and after it was read.  So none of its places is busy any more
  (`evaluateBy_settles`).
-/

set_option autoImplicit false

namespace CryptoUsage
namespace Scan

/-! ## Settled places -/

variable (scan : Scan)

/-- At a site that a rule matches, the argument for the parameter at an index has constants, and
their values are filed under the index. -/
structure ReadsAtOnce (rule : Rule) (site : Site) (index : Int) (values : List DetectedValue) :
    Prop where
  notMethodOnly : rule.isMethodOnly = false
  exists_readings : ∃ position parameter factory argument, index = (position : Nat) ∧
    rule.parameters[position]? = some parameter ∧ parameter.role = .detectable factory ∧
    parameter.moveUnder = none ∧ scan.argument? site position = some argument ∧
    scan.unit.resolveValue scan.config factory [] argument ≠ [] ∧
    values = ((scan.unit.resolveValue scan.config factory [] argument).filterMap
      (scan.valueOf? factory)).eraseDups

/-- Under an index a store holds the given values, and nobody asks for more. -/
structure Holds (id : StoreId) (index : Int) (values : List DetectedValue) (s : ScanState) :
    Prop where
  values_eq : ∃ store, s.stores.store? id = some store ∧ Slots.at store.values index = values
  unasked : ∀ {kind number observer}, s.hooks.Waits kind number observer →
    observer.requester = id → ¬ observer.payload.FilesUnder index

/-- If the values for an index of a store are read at once, then they are there. -/
def SettledAt (id : StoreId) (index : Int) (s : ScanState) : Prop :=
  ∀ ⦃store site rule values⦄, s.stores.store? id = some store → store.site = some site →
    scan.catalog.rule? store.rule = some rule → scan.ReadsAtOnce rule site index values →
    Holds id index values s

/-- All places are settled, but for those that are busy. -/
def SettledBut (busy : StoreId → Int → Prop) (s : ScanState) : Prop :=
  ∀ ⦃id index⦄, ¬ busy id index → scan.SettledAt id index s

/-- Between two arenas, nothing was done to places that are not busy: their stores have the sites
and values that they had. -/
def TouchesStores (busy : StoreId → Int → Prop) (a b : Arena) : Prop :=
  ∀ ⦃id index new⦄, ¬ busy id index → b.store? id = some new → new.site ≠ none →
    ∃ old, a.store? id = some old ∧ old.site = new.site ∧ old.rule = new.rule ∧
      Slots.at old.values index = Slots.at new.values index

/-- Between two states, nothing was done to places that are not busy, and nobody asks for values
there who did not ask before. -/
structure Touches (busy : StoreId → Int → Prop) (s s' : ScanState) : Prop where
  stores : TouchesStores busy s.stores s'.stores
  asks : ∀ {index kind number observer}, s'.hooks.Waits kind number observer →
    observer.payload.FilesUnder index → ¬ busy observer.requester index →
    ∃ kind' number' observer', s.hooks.Waits kind' number' observer' ∧
      observer'.requester = observer.requester ∧ observer'.payload.FilesUnder index

variable {scan} {s s' s'' : ScanState} {a b c : Arena} {root id : StoreId} {index : Int}
  {values : List DetectedValue} {busy : StoreId → Int → Prop} {remit : Remit}

theorem Holds.lt_size (h : Holds id index values s) : id < s.stores.size := by
  obtain ⟨store, hid, -⟩ := h.values_eq
  exact Arena.lt_size_of_store? hid

/-- Work whose remit leaves a place out brings nothing there, and nobody who would. -/
theorem Holds.confines (h : Holds id index values s) (hconfines : remit.Confines s s')
    (hnot : ¬ remit.MayFile id index) : Holds id index values s' where
  values_eq := by
    obtain ⟨store, hid, hvalues⟩ := h.values_eq
    obtain ⟨store', hid', hrespects⟩ := hconfines.spares.stores hid
    exact ⟨store', hid', (hrespects.values hnot).trans hvalues⟩
  unasked {kind number observer} hwaits hrequester hfiles := by
    obtain ⟨hook, hat⟩ := HookRepository.waits_iff_exists_waitsAt.mp hwaits
    rcases hconfines.enlists hat with hold | hmay
    · exact h.unasked (HookRepository.waits_iff_exists_waitsAt.mpr ⟨hook, hold⟩) hrequester hfiles
    · cases hpayload : observer.payload with
      | value i =>
        rw [hpayload] at hmay hfiles
        obtain rfl : i = index := hfiles
        exact hnot (hrequester ▸ hmay.1)
      | follow =>
        rw [hpayload] at hfiles
        exact hfiles

/-! ## What touches busy places only -/

theorem TouchesStores.refl (a : Arena) : TouchesStores busy a a :=
  fun _ _ _ _ hid _ => ⟨_, hid, rfl, rfl, rfl⟩

theorem TouchesStores.trans (h : TouchesStores busy a b) (h' : TouchesStores busy b c) :
    TouchesStores busy a c := by
  intro id index new hfree hid hsite
  obtain ⟨between, hbetween, hsite', hrule', hvalues'⟩ := h' hfree hid hsite
  obtain ⟨old, hold, hsite'', hrule, hvalues⟩ := h hfree hbetween (hsite' ▸ hsite)
  exact ⟨old, hold, hsite''.trans hsite', hrule.trans hrule', hvalues.trans hvalues'⟩

/-- A new store has no site yet. -/
theorem touchesStores_createChild {parent : StoreId} {above : Store}
    (habove : a.store? parent = some above) (index : Int) (rule : RuleId)
    (hook : Option HookOrigin) :
    TouchesStores busy a (a.createChild parent index rule hook).1 := by
  intro id i new _ hid hsite
  rw [Arena.store?_createChild habove] at hid
  split at hid
  · cases hid
    exact absurd rfl hsite
  · split at hid
    · next hp =>
      cases hid
      exact ⟨above, hp ▸ habove, rfl, rfl, rfl⟩
    · exact ⟨new, hid, rfl, rfl, rfl⟩

/-- Writing to a store whose places are all busy. -/
theorem touchesStores_modify (hbusy : ∀ index, busy id index) (change : Store → Store) :
    TouchesStores busy a (a.modify id change) := by
  intro j index new hfree hid _
  have hne : id ≠ j := fun heq => hfree (heq ▸ hbusy index)
  rw [Arena.store?_modify, if_neg hne] at hid
  exact ⟨new, hid, rfl, rfl, rfl⟩

/-- Filing a value at a busy place, or in a store that has no site. -/
theorem touchesStores_pushValue
    (h : busy id index ∨ ∀ store, a.store? id = some store → store.site = none)
    (value : DetectedValue) : TouchesStores busy a (a.pushValue id index value) := by
  intro j i new hfree hid hsite
  rw [Arena.pushValue_eq, Arena.store?_modify] at hid
  split at hid
  · next heq =>
    obtain ⟨old, hold, rfl⟩ := Option.map_eq_some_iff.mp hid
    rcases h with hbusy | hnone
    · have hne : i ≠ index := fun hi => hfree (heq ▸ hi ▸ hbusy)
      exact ⟨old, hold, rfl, rfl, (Slots.at_pushNew_of_ne hne ..).symm⟩
    · exact absurd (hnone old (heq ▸ hold)) hsite
  · exact ⟨new, hid, rfl, rfl, rfl⟩

/-- Only stores changed. -/
theorem TouchesStores.touches (h : TouchesStores busy s.stores s'.stores)
    (hhooks : s'.hooks = s.hooks) : Touches busy s s' :=
  ⟨h, fun hwaits hfiles _ => ⟨_, _, _, hhooks ▸ hwaits, rfl, hfiles⟩⟩

theorem Touches.refl (s : ScanState) : Touches busy s s :=
  TouchesStores.touches (.refl s.stores) rfl

theorem touches_storeReading {store : Store} (hid : s.stores.store? id = some store)
    (hbusy : busy id index) (moveUnder : Option Int) (factory : ValueFactory)
    (reading : Reading) :
    Touches busy s (scan.storeReading id index moveUnder factory s reading) := by
  rw [storeReading]
  cases factory.create? reading.constant (scan.unit.tree.location reading.node) with
  | none => exact .refl s
  | some value =>
    cases moveUnder with
    | none =>
      simp only [Arena.receiveValue, if_true]
      exact TouchesStores.touches (touchesStores_pushValue (.inl hbusy) value) rfl
    | some target =>
      have hne : s.stores.size ≠ id := Nat.ne_of_gt (Arena.lt_size_of_store? hid)
      simp only [Arena.receiveValue, hid, Arena.createChild_snd, if_neg hne]
      refine TouchesStores.touches ?_ rfl
      refine (touchesStores_createChild hid target store.rule none).trans
        (touchesStores_pushValue (.inr fun moved hmoved => ?_) value)
      rw [Arena.store?_createChild_new hid] at hmoved
      cases hmoved
      rfl

/-- Nobody asks for values at a place that is not busy, unless somebody asked there before. -/
theorem Touches.waitFor {observer : Observer} (ht : Touches busy s s')
    (h : ∀ {index}, observer.payload.FilesUnder index → ¬ busy observer.requester index →
      ∃ kind number observer', s.hooks.Waits kind number observer' ∧
        observer'.requester = observer.requester ∧ observer'.payload.FilesUnder index)
    (plan : HookPlan) : Touches busy s (scan.waitFor observer s' plan) := by
  rw [Scan.waitFor]
  split
  · next kind selections _ =>
    refine ⟨ht.stores, fun hwaits hfiles hfree => ?_⟩
    rcases HookRepository.Waits.of_register hwaits with hold | ⟨rfl, -⟩
    · exact ht.asks hold hfiles hfree
    · exact h hfiles hfree
  · exact ht

theorem touches_waitFor_foldl {observer : Observer}
    (h : ∀ {index}, observer.payload.FilesUnder index → ¬ busy observer.requester index →
      ∃ kind number observer', s.hooks.Waits kind number observer' ∧
        observer'.requester = observer.requester ∧ observer'.payload.FilesUnder index)
    (plans : List HookPlan) : Touches busy s (plans.foldl (scan.waitFor observer) s) := by
  suffices hall : ∀ s', Touches busy s s' →
      Touches busy s (plans.foldl (scan.waitFor observer) s') from hall s (.refl s)
  induction plans with
  | nil => exact fun _ ht => ht
  | cons plan plans ih => exact fun s' ht => ih _ (ht.waitFor h plan)

/-- Settled places stay settled. -/
theorem SettledBut.touches (h : scan.SettledBut busy s) (ht : Touches busy s s') :
    scan.SettledBut busy s' := by
  intro id index hfree store site rule values hid hsite hrule hreads
  obtain ⟨old, hold, hsite', hrule', hvalues⟩ := ht.stores hfree hid (by rw [hsite]; nofun)
  have hheld := h hfree hold (hsite'.trans hsite) (hrule' ▸ hrule) hreads
  obtain ⟨old', hold', hvalues'⟩ := hheld.values_eq
  obtain rfl := Option.some.inj (hold.symm.trans hold')
  refine ⟨⟨store, hid, hvalues.symm.trans hvalues'⟩, fun hwaits hrequester hfiles => ?_⟩
  obtain ⟨_, _, _, hwaits', hrequester', hfiles'⟩ := ht.asks hwaits hfiles (hrequester ▸ hfree)
  exact hheld.unasked hwaits' (hrequester'.trans hrequester) hfiles'

theorem SettledBut.congr (h : scan.SettledBut busy s) (hstores : s'.stores = s.stores)
    (hhooks : s'.hooks = s.hooks) : scan.SettledBut busy s' :=
  h.touches (TouchesStores.touches (by rw [hstores]; exact .refl s.stores) hhooks)

theorem SettledBut.mono {busy' : StoreId → Int → Prop} (h : scan.SettledBut busy s)
    (hbusy : ∀ {id index}, busy id index → busy' id index) : scan.SettledBut busy' s :=
  fun _ _ hfree => h fun hold => hfree (hbusy hold)

/-- What is done for every item of a list in turn, while the work for a root runs on. -/
theorem SettledBut.foldl {α : Type} {f : ScanState → α → ScanState} {l : List α}
    (h : scan.SettledBut busy s)
    (hf : ∀ s', scan.Runs root s s' → ∀ a ∈ l, scan.Runs root s' (f s' a) ∧
      (scan.SettledBut busy s' → scan.SettledBut busy (f s' a))) :
    scan.SettledBut busy (l.foldl f s) := by
  induction l generalizing s with
  | nil => exact h
  | cons a l ih =>
    obtain ⟨hruns, hkeeps⟩ := hf s .refl a List.mem_cons_self
    refine ih (hkeeps h) fun s' hruns' b hb => ?_
    exact hf s' (hruns.trans hruns') b (List.mem_cons_of_mem a hb)

/-! ## Values -/

/-- Looking for the value of an argument settles nothing else, if the store is busy there. -/
theorem SettledBut.detectValue {ruleId : RuleId} {rule : Rule} {site : Site} {position : Nat}
    {parameter : Parameter} {factory : ValueFactory} (h : scan.SettledBut busy s)
    (hmatched : scan.Matched s root id ruleId rule site)
    (hparameter : rule.parameters[position]? = some parameter)
    (hrole : parameter.role = .detectable factory) (hbusy : busy id (position : Nat))
    (argument : NodeId) :
    scan.SettledBut busy (scan.detectValue id position parameter.moveUnder ⟨ruleId, position⟩
      factory s argument) := by
  rw [Scan.detectValue]
  split
  · refine h.touches (touches_waitFor_foldl (fun {index} hunder hfree => ?_) _)
    obtain rfl : (position : Int) = index := hunder
    exact absurd hbusy hfree
  · refine h.foldl fun s' (hruns : scan.Runs root s s') reading _ => ?_
    have hmay : scan.MayFile s' root id ruleId position parameter.moveUnder :=
      ⟨rule, site, position, parameter, factory, hmatched.runs hruns, hparameter, hrole, rfl, rfl⟩
    obtain ⟨store, hid, -⟩ := hmay.store_eq
    exact ⟨storeReading_runs hmay .., fun hsettled =>
      hsettled.touches (touches_storeReading hid hbusy ..)⟩

/-! ## Following rules -/

variable (scan) in
/-- Evaluating a rule settles every place that is not busy. -/
def Settles (evaluate : Evaluator) : Prop :=
  ∀ ⦃busy s root id trace site⦄, scan.Explained s → scan.Ready s root id trace site →
    scan.SettledBut busy s → scan.SettledBut busy (evaluate s id trace site)

variable {evaluate : Evaluator}

theorem SettledBut.evaluateIn (hr : scan.Evaluates evaluate) (he : scan.Settles evaluate)
    (hs : scan.Explained s) {parent : StoreId} {child aboveId : RuleId}
    {hook : Option HookOrigin} {above : Rule} {found : Site} {trace : Trace} {scope : NodeId}
    (h : IsFollowUp s root id parent index child hook)
    (hmatched : scan.Matched s root parent aboveId above found)
    (hleads : ∀ site ∈ scan.unit.sitesIn scope, trace.admits (scan.binding site) = true →
      scan.Leads above found index child hook site) (hsettled : scan.SettledBut busy s) :
    scan.SettledBut busy (scan.evaluateIn evaluate trace scope s id) := by
  have hstart : scan.Runs root s s.start := .single (.start s)
  have hstarted : scan.SettledBut busy s.start := hsettled.congr rfl rfl
  refine hstarted.foldl fun s' (hruns : scan.Runs root s.start s') site hsite => ?_
  have hall := hstart.trans hruns
  have hs' := Runs.explained hall hs
  have hready := (h.runs hall).ready (hmatched.runs hall) (hleads site hsite)
  exact ⟨hr hs' hready, he hs' hready⟩

theorem SettledBut.evaluateAt (he : scan.Settles evaluate) (hs : scan.Explained s) {trace : Trace}
    {n : NodeId} (h : ∀ {site}, scan.unit.site? n = some site →
      scan.Ready s.start root id trace site) (hsettled : scan.SettledBut busy s) :
    scan.SettledBut busy (scan.evaluateAt evaluate trace n s id) := by
  have hstart : scan.Runs root s s.start := .single (.start s)
  have hstarted : scan.SettledBut busy s.start := hsettled.congr rfl rfl
  rw [Scan.evaluateAt]
  split
  · next site hsite => exact he (Runs.explained hstart hs) (h hsite) hstarted
  · exact hstarted

theorem SettledBut.follow_foldl {run : ScanState → StoreId → ScanState} (hs : scan.Explained s)
    {parent : StoreId} {rules : List RuleId} {aboveId : RuleId} {hook : Option HookOrigin}
    {above : Rule} {found : Site} (hmatched : scan.Matched s root parent aboveId above found)
    (hfollows : ∀ child ∈ rules, scan.Follows above found index child hook)
    (hrooted : ∀ origin, hook = some origin → origin.hookRoot = s.stores.hookRoot parent)
    (hrun : ∀ {s' id child}, child ∈ rules → scan.Runs root s s' →
      IsFollowUp s' root id parent index child hook → scan.Runs root s' (run s' id) ∧
        (scan.SettledBut busy s' → scan.SettledBut busy (run s' id)))
    (hsettled : scan.SettledBut busy s) :
    scan.SettledBut busy (rules.foldl (follow run parent index hook) s) := by
  refine hsettled.foldl fun s' (hruns : scan.Runs root s s') child hchild => ?_
  have hmatched' := hmatched.runs hruns
  have hrooted' : ∀ origin, hook = some origin → origin.hookRoot = s'.stores.hookRoot parent := by
    intro origin hhook
    obtain ⟨-, store, hparent, -⟩ := hmatched
    rw [hrooted origin hhook,
      hruns.works.grows.hookRoot_eq hs.linked (hruns.explained hs).linked hparent]
  have hmade : scan.Runs root s'
      (s'.withStores (s'.stores.createChild parent index child hook).1).plan :=
    (Relation.ReflTransGen.single (.follow hmatched' (hfollows child hchild) hrooted')).tail
      (.plan _)
  obtain ⟨-, store, hparent, hroot, -⟩ := hmatched'
  have hnew : IsFollowUp (s'.withStores (s'.stores.createChild parent index child hook).1).plan
      root s'.stores.size parent index child hook :=
    ⟨_, Arena.store?_createChild_new hparent .., hroot, rfl, rfl, rfl,
      fun _ => Store.isBlank_under ..⟩
  obtain ⟨hruns', hkeeps⟩ := hrun hchild (hruns.trans hmade) hnew
  refine ⟨hmade.trans hruns', fun hsettled' => hkeeps (hsettled'.touches ?_)⟩
  exact TouchesStores.touches (touchesStores_createChild hparent ..) rfl

theorem SettledBut.followNext (hr : scan.Evaluates evaluate) (he : scan.Settles evaluate)
    (hs : scan.Explained s) {ruleId : RuleId} {rule : Rule} {site : Site}
    (h : scan.Matched s root id ruleId rule site) (hsettled : scan.SettledBut busy s) :
    scan.SettledBut busy (scan.followNext evaluate id rule site s) := by
  rw [Scan.followNext]
  generalize hscope : scan.unit.enclosingScope site.node = scope
  cases htrace : scan.nextTrace site with
  | different => exact hsettled
  | _ =>
    have hnot : scan.isArgument site.node = false := isArgument_of_nextTrace (by simp [htrace])
    refine hsettled.follow_foldl hs h (fun child hchild => .next hchild hnot) (by simp)
      fun hchild hruns hid => ?_
    have hleads : ∀ found ∈ scan.unit.sitesIn scope, _ →
        scan.Leads rule site methodLevel _ none _ :=
      fun found hfound hadmits => .next hchild hnot (hscope ▸ hfound) (htrace ▸ hadmits)
    have hs' := hruns.explained hs
    exact ⟨evaluateIn_runs hr hs' hid (h.runs hruns) hleads,
      SettledBut.evaluateIn hr he hs' hid (h.runs hruns) hleads⟩

theorem SettledBut.followDepending (hr : scan.Evaluates evaluate) (he : scan.Settles evaluate)
    (hs : scan.Explained s) {requester : StoreId} {ruleId : RuleId} {rule : Rule} {site : Site}
    {position : Nat} {parameter : Parameter} {rules : List RuleId} {origin : Option HookOrigin}
    {chain : Nat} {argument : NodeId} (h : scan.Matched s root requester ruleId rule site)
    (hparameter : rule.parameters[position]? = some parameter)
    (hrole : parameter.role = .depending rules)
    (hsupplies : scan.Supplies site position origin argument)
    (hrooted : ∀ from_, origin = some from_ → from_.hookRoot = s.stores.hookRoot requester)
    (hsettled : scan.SettledBut busy s) :
    scan.SettledBut busy
      (scan.followDepending evaluate requester position rules origin chain s argument) := by
  have hfollows : ∀ child ∈ rules, scan.Follows rule site position child origin :=
    fun child hchild => .depending hparameter hrole hchild hsupplies
  have hleads : ∀ {child found}, child ∈ rules → scan.Reaches argument found →
      scan.Leads rule site position child origin found :=
    fun hchild hreached => .depending hparameter hrole hchild hsupplies hreached
  simp only [Scan.followDepending]
  cases hinner : scan.unit.expression (scan.unwrap argument) with
  | call call =>
    refine hsettled.follow_foldl hs h hfollows hrooted fun {s' id child} hchild hruns hid => ?_
    have hstart : scan.Runs root s' s'.start := .single (.start s')
    have hs' := hruns.explained hs
    have hready : ∀ {found}, scan.unit.site? (scan.unwrap argument) = some found →
        scan.Ready s'.start root id .start found := fun hsite =>
      (hid.runs hstart).ready (h.runs (hruns.trans hstart)) fun _ =>
        hleads hchild (.call hinner hsite)
    exact ⟨evaluateAt_runs hr hs' hready, SettledBut.evaluateAt he hs' hready⟩
  | «variable» symbol =>
    simp only
    split
    · split
      · split
        · exact hsettled.touches ((Touches.refl s).waitFor (fun hfiles _ => absurd hfiles id) _)
        · exact hsettled
      · exact hsettled
    · next hkind =>
      refine hsettled.follow_foldl hs h hfollows hrooted fun {s' id child} hchild hruns hid => ?_
      have hreached : ∀ found ∈ scan.unit.sitesIn (scan.unit.symbolScope symbol),
          (Trace.on symbol).admits (scan.binding found) = true →
            scan.Leads rule site position child origin found :=
        fun found hfound hadmits => hleads hchild (.variable hinner hkind hfound hadmits)
      have hs' := hruns.explained hs
      exact ⟨evaluateIn_runs hr hs' hid (h.runs hruns) hreached,
        SettledBut.evaluateIn hr he hs' hid (h.runs hruns) hreached⟩
  | _ => exact hsettled

/-! ## A rule at a site -/

/-- Reading the arguments settles nothing else, if the store is busy. -/
theorem SettledBut.pursue (hr : scan.Evaluates evaluate) (he : scan.Settles evaluate)
    (hs : scan.Explained s) {ruleId : RuleId} {rule : Rule} {site : Site}
    (h : scan.Matched s root id ruleId rule site) (hbusy : ∀ index, busy id index)
    (hsettled : scan.SettledBut busy s) :
    scan.SettledBut busy (scan.pursue evaluate id ruleId rule site s) := by
  have hnext := followNext_runs hr hs h
  have hfollowed := hsettled.followNext hr he hs h
  simp only [Scan.pursue]
  split
  · exact hfollowed
  · refine hfollowed.foldl fun s' (hruns : scan.Runs root _ s') entry hentry => ?_
    obtain ⟨⟨parameter, argument⟩, position⟩ := entry
    have hall := hnext.trans hruns
    have hs' := Runs.explained hall hs
    obtain ⟨hparameter, hargument⟩ :=
      List.getElem?_zip_eq_some.mp (List.mem_zipIdx_iff_getElem?.mp hentry)
    refine ⟨readArgument_runs hr hs' (h.runs hall) hparameter hargument, fun hsettled' => ?_⟩
    simp only [readArgument]
    cases hrole : parameter.role with
    | typeOnly => exact hsettled'
    | detectable factory =>
      exact hsettled'.detectValue (h.runs hall) hparameter hrole (hbusy _) argument
    | depending rules =>
      exact hsettled'.followDepending hr he hs' (h.runs hall) hparameter hrole
        (.direct hargument) (by simp)

/-- The store that is given a site holds nothing and asks for nothing, and no other is touched. -/
theorem grant_touches (busy : StoreId → Int → Prop) (hs : scan.Explained s) {store : Store}
    {rule : Rule} {trace : Trace} {site : Site} (hready : scan.Ready s root id trace site)
    (hid : s.stores.store? id = some store)
    (htakes : scan.takes s id store rule trace site = true) :
    Touches (fun j i => busy j i ∨ j = (scan.grant s id rule site).2) s
        (scan.grant s id rule site).1 ∧
      ∀ index, Holds (scan.grant s id rule site).2 index [] (scan.grant s id rule site).1 := by
  obtain ⟨store', hid', -, hblank, hfresh, -⟩ := hready.store_eq
  cases hid.symm.trans hid'
  have hasked : ∀ {kind number observer}, s.hooks.Waits kind number observer →
      ∃ asker site, s.stores.store? observer.requester = some asker ∧ asker.site = some site := by
    intro kind number observer hwaits
    obtain ⟨-, -, -, _, _, site, _, _, ⟨-, asker, hlive, -, -, hclaimed⟩, -⟩ := hs.requests hwaits
    exact ⟨asker, site, hlive, hclaimed⟩
  cases hsite : store.site with
  | none =>
    rw [grant_of_unclaimed hid hsite]
    refine ⟨TouchesStores.touches (touchesStores_modify (fun _ => .inr rfl) _) rfl, fun index =>
      ⟨⟨_, Arena.store?_modify_self hid _, ?_⟩, fun hwaits hrequester _ => ?_⟩⟩
    · rw [Store.take, (hblank hsite).values]
      rfl
    · obtain ⟨asker, other, hlive, hclaimed⟩ := hasked hwaits
      rw [hrequester, hid] at hlive
      obtain rfl := Option.some.inj hlive
      rw [hsite] at hclaimed
      cases hclaimed
  | some other =>
    cases hpar : store.parent with
    | none => rw [hfresh hpar] at hsite; cases hsite
    | some above =>
      obtain ⟨p, i⟩ := above
      simp only [takes, Bool.and_eq_true, Bool.not_eq_true', decide_eq_true_eq] at htakes
      have hne : other ≠ site := hs.linked.ne_of_isClaimedOnPath hid hsite htakes.1.1.2
      obtain ⟨-, above, habove, -⟩ := hs.linked.parent hid hpar
      have hnew := Arena.store?_createChild_new habove i store.rule store.hook
      rw [grant_of_claimed hid hsite hne hpar]
      refine ⟨TouchesStores.touches ((touchesStores_createChild habove ..).trans
        (touchesStores_modify (fun _ => .inr rfl) _)) rfl, fun index =>
        ⟨⟨_, Arena.store?_modify_self hnew _, rfl⟩, fun hwaits hrequester _ => ?_⟩⟩
      obtain ⟨asker, -, hlive, -⟩ := hasked hwaits
      rw [hrequester] at hlive
      exact Nat.lt_irrefl _ (Arena.lt_size_of_store? hlive)

theorem linked_storeReadings (hlinked : s.stores.Linked) (id : StoreId) (index : Int)
    (factory : ValueFactory) (readings : List Reading) :
    (scan.storeReadings id index none factory s readings).stores.Linked :=
  (storeReadings_confines (Remit.fits_everything hlinked) (.inl (Nat.zero_le _)) (absurd rfl)
    factory readings).spares.linked hlinked

/-- What is read at once is there when the arguments were read. -/
theorem holds_pursue (he : KeepsRemits evaluate) (hlinked : s.stores.Linked)
    (h : Holds id index [] s) {rule : Rule} {site : Site} (ruleId : RuleId)
    (hreads : scan.ReadsAtOnce rule site index values) :
    Holds id index values (scan.pursue evaluate id ruleId rule site s) := by
  obtain ⟨hkind, position, parameter, factory, argument, rfl, hparameter, hrole, hmove, hargument,
    hsome, rfl⟩ := hreads
  have hat : (rule.parameters.zip (scan.unit.arguments site))[position]? =
      some (parameter, argument) := List.getElem?_zip_eq_some.mpr ⟨hparameter, hargument⟩
  obtain ⟨before, after, heq, hbefore, hafter⟩ := exists_zipIdx_eq_append hat
  have hread : ∀ s, scan.readArgument evaluate id ruleId s ((parameter, argument), position) =
      scan.storeReadings id position none factory s
        (scan.unit.resolveValue scan.config factory [] argument) := by
    intro s
    simp only [readArgument, hrole, hmove, detectValue]
  obtain ⟨store, hid, -⟩ := h.values_eq
  have hnext : (Remit.sparing s.stores.size id position).Confines s
      (scan.followNext evaluate id rule site s) :=
    followNext_confines he ⟨hlinked, Nat.le_refl _⟩ ⟨.inr trivial, store, hid⟩ rule site
  have hlinked' := hnext.spares.linked hlinked
  have h' := h.confines hnext (Remit.not_mayFile_sparing h.lt_size)
  simp only [pursue, hkind, Bool.false_eq_true, if_false, readArguments, heq, List.foldl_append,
    List.foldl_cons, hread]
  -- the arguments before it, the argument itself, and those after it
  have hfirst := readArgument_foldl_confines scan he hlinked' h'.lt_size ruleId hbefore
  have hempty := h'.confines hfirst (Remit.not_mayFile_sparing h'.lt_size)
  obtain ⟨store', hid', hvalues⟩ := hempty.values_eq
  obtain ⟨hhooks, hfiled⟩ := @values_storeReadings scan _ _ [] _ _ factory hid' hvalues
    (scan.unit.resolveValue scan.config factory [] argument)
  have hheld : Holds id position _ _ := ⟨hfiled, fun hwaits => hempty.unasked (hhooks ▸ hwaits)⟩
  have hlast := readArgument_foldl_confines scan he
    (linked_storeReadings (hfirst.spares.linked hlinked') id position factory _) hheld.lt_size
    ruleId hafter
  exact hheld.confines hlast (Remit.not_mayFile_sparing hheld.lt_size)

theorem evaluateBy_settles (hr : scan.Evaluates evaluate) (hk : KeepsRemits evaluate)
    (he : scan.Settles evaluate) : scan.Settles (scan.evaluateBy evaluate) := by
  intro busy s root id trace site hs hready hsettled
  rw [evaluateBy]
  cases hid : s.stores.store? id with
  | none => exact hsettled
  | some store =>
    simp only
    cases hrule : scan.catalog.rule? store.rule with
    | none => exact hsettled
    | some rule =>
      simp only
      split
      · next htakes =>
        obtain ⟨hgrant, hmatched⟩ := grant_runs hs hready hid hrule htakes
        obtain ⟨htouches, hempty⟩ := grant_touches busy hs hready hid htakes
        have hs' := hgrant.explained hs
        have hfinal := hmatched.runs (takeSite_runs hr hs' hmatched)
        rw [takeSite_eq_pursue] at hfinal ⊢
        -- all places of the store that takes the site are busy until its arguments were read
        have hpursued := ((hsettled.mono .inl).touches htouches).pursue hr he hs' hmatched
          fun _ => .inr rfl
        intro j index hfree
        by_cases hj : j = (scan.grant s id rule site).2
        · subst hj
          intro store' site' rule' values hid' hsite' hrule' hreads
          obtain rfl : site = site' := Option.some.inj ((hfinal.site_eq hid').symm.trans hsite')
          obtain rfl : rule = rule' := Option.some.inj ((hfinal.rule?_eq hid').symm.trans hrule')
          exact holds_pursue hk hs'.linked (hempty index) store.rule hreads
        · exact hpursued fun hbusy => hbusy.elim hfree hj
      · exact hsettled

theorem evaluateWithin_settles (scan : Scan) (steps : Nat) :
    scan.Settles (scan.evaluateWithin steps) := by
  induction steps with
  | zero => exact fun _ _ _ _ _ _ _ _ hsettled => hsettled
  | succ steps ih =>
    exact evaluateBy_settles (evaluateWithin_runs scan steps) (evaluateWithin_confines scan steps)
      ih

/-- **Evaluating a rule settles every place that is not busy.** -/
theorem evaluate_settles (scan : Scan) : scan.Settles scan.evaluate :=
  evaluateWithin_settles scan scan.catalog.size

end Scan
end CryptoUsage
