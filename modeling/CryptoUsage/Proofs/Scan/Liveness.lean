import CryptoUsage.Proofs.Scan.Checked

/-!
# No place is looked up in vain

Whatever place a scan keeps is that of a live store (`places_are_live`), though stores are thrown
away and their places used again.  Therefore no lookup of the scan fails: the checked functions
agree with the unchecked ones, one by one up to the whole scan (`run?_eq`) and its outcome
(`outcome?_eq`).

So wherever a definition of the evaluation has a default for a place without a store, that default
is never used.

## How it goes

Nothing here says anew where stores are.  The reasons of `Explained` and what the functions of the
evaluation are called for (`Matched`, `MayFile`, `Ready`) name the stores that are there, and the
theorems of the files on evaluation carry these from step to step.  What is added is one equation
for each checked function.

* Values, following, a rule at a site: the equations go up the definitions, as the theorems on the
  work for a root do.  `Agrees` states the equation for an evaluation that is used for what is
  followed, and `evaluateWithin?_eq` is the induction on the number of rules followed in a row.
* Going through a list.  `Runs.foldlM_eq` says that a checked walk succeeds if each of its steps
  does, in a state that the earlier steps lead to.
* Events.  An event that is due names a hook whose observers have reasons, so it is handled
  without a gap (`handle?_eq`), and a new root is live while it is tried (`tryRoot?_eq`).
* The scan.  At each node `visit?_eq` uses that the state before it is sound.
-/

set_option autoImplicit false

namespace CryptoUsage
namespace Scan

variable {scan : Scan} {s s' : ScanState} {root : StoreId}

theorem Runs.foldlM_eq {α : Type} {f? : ScanState → α → Option ScanState}
    {f : ScanState → α → ScanState} {l : List α}
    (h : ∀ s', scan.Runs root s s' → ∀ a ∈ l, f? s' a = some (f s' a) ∧
      scan.Runs root s' (f s' a)) : l.foldlM f? s = some (l.foldl f s) := by
  induction l generalizing s with
  | nil => rfl
  | cons a l ih =>
    obtain ⟨hfirst, hruns⟩ := h s .refl a List.mem_cons_self
    rw [List.foldlM_cons, hfirst, List.foldl_cons]
    exact ih fun s' hs' b hb => h s' (hruns.trans hs') b (List.mem_cons_of_mem a hb)

/-! ## Values -/

theorem storeReading?_eq {id : StoreId} {store : Store} (hid : s.stores.store? id = some store)
    (index : Int) (moveUnder : Option Int) (factory : ValueFactory) (reading : Reading) :
    scan.storeReading? id index moveUnder factory s reading =
      some (scan.storeReading id index moveUnder factory s reading) := by
  rw [storeReading?, storeReading]
  cases factory.create? reading.constant (scan.unit.tree.location reading.node) with
  | none => rfl
  | some value => simp only [Arena.receiveValue?_eq hid, Option.map_some]

theorem storeReadings?_eq {id : StoreId} {ruleId : RuleId} {index : Int} {moveUnder : Option Int}
    (h : scan.MayFile s root id ruleId index moveUnder) (factory : ValueFactory)
    (readings : List Reading) :
    scan.storeReadings? id index moveUnder factory s readings =
      some (scan.storeReadings id index moveUnder factory s readings) := by
  refine Runs.foldlM_eq fun s' (hruns : scan.Runs root s s') reading _ => ?_
  obtain ⟨store, hid, -⟩ := (h.runs hruns).store_eq
  exact ⟨storeReading?_eq hid .., storeReading_runs (h.runs hruns) ..⟩

theorem rootOf?_eq {id : StoreId} {store : Store} (hid : s.stores.store? id = some store) :
    rootOf? s id = some (s.rootOf id) := by
  rw [rootOf?, ScanState.rootOf, hid, Option.map_some, Option.getD_some]

theorem detectValue?_eq {id : StoreId} {ruleId : RuleId} {rule : Rule} {site : Site}
    {position : Nat} {parameter : Parameter} {factory : ValueFactory}
    (h : scan.Matched s root id ruleId rule site)
    (hparameter : rule.parameters[position]? = some parameter)
    (hrole : parameter.role = .detectable factory) (factoryId : FactoryId) (argument : NodeId) :
    scan.detectValue? id position parameter.moveUnder factoryId factory s argument =
      some (scan.detectValue id position parameter.moveUnder factoryId factory s argument) := by
  rw [detectValue?, detectValue]
  cases scan.unit.resolveValue scan.config factory [] argument with
  | nil =>
    obtain ⟨-, store, hid, -⟩ := h
    simp only [rootOf?_eq hid, Option.map_some]
  | cons reading readings =>
    exact storeReadings?_eq ⟨rule, site, position, parameter, factory, h, hparameter, hrole, rfl,
      rfl⟩ ..

/-! ## Following rules -/

/-- A checked evaluation agrees with the unchecked one wherever a rule may be evaluated. -/
def Agrees (scan : Scan) (evaluate? : Evaluator?) (evaluate : Evaluator) : Prop :=
  ∀ {s root id trace site}, scan.Explained s → scan.Ready s root id trace site →
    evaluate? s id trace site = some (evaluate s id trace site)

variable {evaluate : Evaluator} {evaluate? : Evaluator?}

theorem evaluateIn?_eq (he : scan.Evaluates evaluate) (ha : scan.Agrees evaluate? evaluate)
    (hs : scan.Explained s) {id parent : StoreId} {index : Int} {child aboveId : RuleId}
    {hook : Option HookOrigin} {above : Rule} {found : Site} {trace : Trace} {scope : NodeId}
    (h : IsFollowUp s root id parent index child hook)
    (hmatched : scan.Matched s root parent aboveId above found)
    (hleads : ∀ site ∈ scan.unit.sitesIn scope, trace.admits (scan.binding site) = true →
      scan.Leads above found index child hook site) :
    scan.evaluateIn? evaluate? trace scope s id =
      some (scan.evaluateIn evaluate trace scope s id) := by
  have hstart : scan.Runs root s s.start := .single (.start s)
  refine Runs.foldlM_eq fun s' (hruns : scan.Runs root s.start s') site hsite => ?_
  have hall := hstart.trans hruns
  have hs' := Runs.explained hall hs
  have hready := (h.runs hall).ready (hmatched.runs hall) (hleads site hsite)
  exact ⟨ha hs' hready, he hs' hready⟩

theorem evaluateAt?_eq (ha : scan.Agrees evaluate? evaluate) (hs : scan.Explained s)
    {id : StoreId} {trace : Trace} {n : NodeId}
    (h : ∀ {site}, scan.unit.site? n = some site → scan.Ready s.start root id trace site) :
    scan.evaluateAt? evaluate? trace n s id = some (scan.evaluateAt evaluate trace n s id) := by
  have hstart : scan.Runs root s s.start := .single (.start s)
  rw [evaluateAt?, evaluateAt]
  cases hsite : scan.unit.site? n with
  | none => rfl
  | some site => exact ha (Runs.explained hstart hs) (h hsite)

theorem follow?_foldlM_eq {run : ScanState → StoreId → ScanState}
    {run? : ScanState → StoreId → Option ScanState} (hs : scan.Explained s)
    {parent : StoreId} {index : Int} {rules : List RuleId} {aboveId : RuleId}
    {hook : Option HookOrigin} {above : Rule} {found : Site}
    (hmatched : scan.Matched s root parent aboveId above found)
    (hfollows : ∀ child ∈ rules, scan.Follows above found index child hook)
    (hrooted : ∀ origin, hook = some origin → origin.hookRoot = s.stores.hookRoot parent)
    (hrun : ∀ {s' id child}, child ∈ rules → scan.Runs root s s' →
      IsFollowUp s' root id parent index child hook →
        run? s' id = some (run s' id) ∧ scan.Runs root s' (run s' id)) :
    rules.foldlM (follow? run? parent index hook) s =
      some (rules.foldl (follow run parent index hook) s) := by
  refine Runs.foldlM_eq fun s' (hruns : scan.Runs root s s') child hchild => ?_
  have hs' := hruns.explained hs
  have hmatched' := hmatched.runs hruns
  have hrooted' : ∀ origin, hook = some origin → origin.hookRoot = s'.stores.hookRoot parent := by
    intro origin hhook
    obtain ⟨-, store, hparent, -⟩ := hmatched
    rw [hrooted origin hhook, hruns.works.grows.hookRoot_eq hs.linked hs'.linked hparent]
  refine ⟨?_, follow_runs hmatched' (hfollows child hchild) hrooted'
    fun hruns' hid => (hrun hchild (hruns.trans hruns') hid).2⟩
  have hmade : scan.Runs root s'
      (s'.withStores (s'.stores.createChild parent index child hook).1).plan :=
    (Relation.ReflTransGen.single (.follow hmatched' (hfollows child hchild) hrooted')).tail
      (.plan _)
  obtain ⟨-, store, hparent, hroot, -⟩ := hmatched'
  simp only [follow?, Arena.createChild?_eq hparent, Option.bind_some]
  refine (hrun hchild (hruns.trans hmade) ?_).1
  exact ⟨_, Arena.store?_createChild_new hparent .., hroot, rfl, rfl, rfl,
    fun _ => Store.isBlank_under ..⟩

theorem followNext?_eq (he : scan.Evaluates evaluate) (ha : scan.Agrees evaluate? evaluate)
    (hs : scan.Explained s) {id : StoreId} {ruleId : RuleId} {rule : Rule} {site : Site}
    (h : scan.Matched s root id ruleId rule site) :
    scan.followNext? evaluate? id rule site s = some (scan.followNext evaluate id rule site s) := by
  rw [followNext?, followNext]
  generalize hscope : scan.unit.enclosingScope site.node = scope
  cases htrace : scan.nextTrace site with
  | different => rfl
  | _ =>
    have hnot : scan.isArgument site.node = false := isArgument_of_nextTrace (by simp [htrace])
    refine follow?_foldlM_eq hs h (fun child hchild => .next hchild hnot) (by simp)
      fun hchild hruns hid => ?_
    have hleads : ∀ found ∈ scan.unit.sitesIn scope, _ →
        scan.Leads rule site methodLevel _ none _ :=
      fun found hfound hadmits => .next hchild hnot (hscope ▸ hfound) (htrace ▸ hadmits)
    exact ⟨evaluateIn?_eq he ha (hruns.explained hs) hid (h.runs hruns) hleads,
      evaluateIn_runs he (hruns.explained hs) hid (h.runs hruns) hleads⟩

theorem followDepending?_eq (he : scan.Evaluates evaluate) (ha : scan.Agrees evaluate? evaluate)
    (hs : scan.Explained s) {requester : StoreId} {ruleId : RuleId} {rule : Rule} {site : Site}
    {position : Nat} {parameter : Parameter} {rules : List RuleId} {origin : Option HookOrigin}
    {chain : Nat} {argument : NodeId} (h : scan.Matched s root requester ruleId rule site)
    (hparameter : rule.parameters[position]? = some parameter)
    (hrole : parameter.role = .depending rules)
    (hsupplies : scan.Supplies site position origin argument)
    (hrooted : ∀ from_, origin = some from_ → from_.hookRoot = s.stores.hookRoot requester) :
    scan.followDepending? evaluate? requester position rules origin chain s argument =
      some (scan.followDepending evaluate requester position rules origin chain s argument) := by
  have hfollows : ∀ child ∈ rules, scan.Follows rule site position child origin :=
    fun child hchild => .depending hparameter hrole hchild hsupplies
  have hleads : ∀ {child found}, child ∈ rules → scan.Reaches argument found →
      scan.Leads rule site position child origin found :=
    fun hchild hreached => .depending hparameter hrole hchild hsupplies hreached
  simp only [followDepending?, followDepending]
  cases hinner : scan.unit.expression (scan.unwrap argument) with
  | call call =>
    refine follow?_foldlM_eq hs h hfollows hrooted fun {s' id child} hchild hruns hid => ?_
    have hstart : scan.Runs root s' s'.start := .single (.start s')
    have hready : ∀ {found}, scan.unit.site? (scan.unwrap argument) = some found →
        scan.Ready s'.start root id .start found := fun hsite =>
      (hid.runs hstart).ready (h.runs (hruns.trans hstart)) fun _ =>
        hleads hchild (.call hinner hsite)
    exact ⟨evaluateAt?_eq ha (hruns.explained hs) hready,
      evaluateAt_runs he (hruns.explained hs) hready⟩
  | «variable» symbol =>
    simp only
    split
    · cases scan.unit.parameterPosition? symbol with
      | none => rfl
      | some place =>
        obtain ⟨-, store, hid, -⟩ := h
        simp only [rootOf?_eq hid, Option.map_some]
        split <;> rfl
    · next hkind =>
      refine follow?_foldlM_eq hs h hfollows hrooted fun {s' id child} hchild hruns hid => ?_
      have hreached : ∀ found ∈ scan.unit.sitesIn (scan.unit.symbolScope symbol),
          (Trace.on symbol).admits (scan.binding found) = true →
            scan.Leads rule site position child origin found :=
        fun found hfound hadmits => hleads hchild (.variable hinner hkind hfound hadmits)
      exact ⟨evaluateIn?_eq he ha (hruns.explained hs) hid (h.runs hruns) hreached,
        evaluateIn_runs he (hruns.explained hs) hid (h.runs hruns) hreached⟩
  | _ => rfl

/-! ## A rule at a site -/

theorem takes?_eq (hs : scan.Explained s) {id : StoreId} {store : Store}
    (hid : s.stores.store? id = some store) (rule : Rule) (trace : Trace) (site : Site) :
    scan.takes? s id store rule trace site = some (scan.takes s id store rule trace site) := by
  rw [takes?, hs.linked.isClaimedOnPath?_eq hid, Option.map_some, takes]

theorem readArguments?_eq (he : scan.Evaluates evaluate) (ha : scan.Agrees evaluate? evaluate)
    (hs : scan.Explained s) {id : StoreId} {ruleId : RuleId} {rule : Rule} {site : Site}
    (h : scan.Matched s root id ruleId rule site) :
    scan.readArguments? evaluate? id ruleId rule site s =
      some (scan.readArguments evaluate id ruleId rule site s) := by
  refine Runs.foldlM_eq fun s' (hruns : scan.Runs root s s') entry hentry => ?_
  obtain ⟨⟨parameter, argument⟩, position⟩ := entry
  have hat := List.mem_zipIdx_iff_getElem?.mp hentry
  obtain ⟨hparameter, hargument⟩ := List.getElem?_zip_eq_some.mp hat
  have hs' := hruns.explained hs
  have h' := h.runs hruns
  refine ⟨?_, readArgument_runs he hs' h' hparameter hargument⟩
  simp only [readArgument?, readArgument]
  cases hrole : parameter.role with
  | typeOnly => rfl
  | detectable factory => exact detectValue?_eq h' hparameter hrole ..
  | depending rules =>
    exact followDepending?_eq he ha hs' h' hparameter hrole (.direct hargument) nofun

theorem grant?_eq (hs : scan.Explained s) {id : StoreId} {store : Store}
    (hid : s.stores.store? id = some store) (rule : Rule) (site : Site) :
    scan.grant? s id rule site = some (scan.grant s id rule site) := by
  obtain ⟨target, htarget⟩ := hs.linked.exists_claimed hid site
  have hmodify : ∀ t : ScanState, t.stores = (s.stores.claim id site).1 →
      (t.stores.modify? (s.stores.claim id site).2 fun store =>
        store.take site (scan.actionOf? rule site)) =
          some (t.stores.receiveMethod (s.stores.claim id site).2 site
            (scan.actionOf? rule site)) :=
    fun t ht => Arena.modify?_eq (ht ▸ htarget) _
  simp only [grant?, grant, ScanState.claim, hs.linked.claim?_eq hid, Option.bind_eq_bind,
    Option.bind_some]
  split
  · rw [hmodify _ rfl]
    rfl
  · rw [hmodify _ rfl]
    rfl

theorem evaluateBy?_eq (he : scan.Evaluates evaluate) (ha : scan.Agrees evaluate? evaluate) :
    scan.Agrees (scan.evaluateBy? evaluate?) (scan.evaluateBy evaluate) := by
  intro s root id trace site hs hready
  obtain ⟨store, hid, -⟩ := hready.store_eq
  simp only [evaluateBy?, evaluateBy, hid, Option.bind_eq_bind, Option.bind_some]
  cases hrule : scan.catalog.rule? store.rule with
  | none => rfl
  | some rule =>
    simp only [takes?_eq hs hid, Option.bind_some]
    split
    · next htakes =>
      obtain ⟨hgrant, hmatched⟩ := grant_runs hs hready hid hrule htakes
      have hnext := followNext_runs he (hgrant.explained hs) hmatched
      simp only [takeSite?, takeSite_eq, grant?_eq hs hid, Option.bind_eq_bind, Option.bind_some,
        followNext?_eq he ha (hgrant.explained hs) hmatched]
      split
      · rfl
      · exact readArguments?_eq he ha (hnext.explained (hgrant.explained hs)) (hmatched.runs hnext)
    · rfl

theorem evaluateWithin?_eq (scan : Scan) (steps : Nat) :
    scan.Agrees (scan.evaluateWithin? steps) (scan.evaluateWithin steps) := by
  induction steps with
  | zero => exact fun _ _ => rfl
  | succ steps ih => exact evaluateBy?_eq (evaluateWithin_runs scan steps) ih

theorem evaluate?_eq (scan : Scan) : scan.Agrees scan.evaluate? scan.evaluate :=
  evaluateWithin?_eq scan scan.catalog.size

/-! ## Serving observers -/

theorem deliver?_eq {kind : HookKind} {observer : Observer} (hs : scan.Explained s)
    (h : scan.Requests s kind observer) {trigger : Site}
    (htrigger : scan.unit.site? trigger.node = some trigger)
    (hfires : kind.fires scan.unit trigger = true) :
    scan.deliver? kind observer trigger s = some (scan.deliver kind observer trigger s) := by
  obtain ⟨-, -, -, ruleId, rule, site, position, parameter, hmatched, hparameter, hfits⟩ := h
  rw [deliver?, deliver]
  cases hpayload : observer.payload with
  | value index id factory moveUnder =>
    rw [hpayload] at hfits
    obtain ⟨hindex, -, hrole, hmove⟩ := hfits
    have hmay : scan.MayFile s observer.root observer.requester ruleId index moveUnder :=
      ⟨rule, site, position, parameter, factory, hmatched, hparameter, hrole, hmove, hindex⟩
    simp only [deliverValue?, deliverValue]
    cases scan.readingsFor? kind factory observer.selections trigger with
    | none => rfl
    | some found =>
      obtain ⟨readings, argument⟩ := found
      cases readings with
      | nil => cases argument <;> rfl
      | cons reading readings => simp only [storeReadings?_eq hmay, Option.map_some]
  | follow index rules =>
    rw [hpayload] at hfits
    obtain ⟨rfl, hrole, hawaits⟩ := hfits
    cases kind with
    | parameter method matcher place =>
      simp only [deliverRules?, deliverRules]
      cases hargument : scan.argument? trigger place with
      | none => rfl
      | some argument =>
        obtain ⟨store, hid, -⟩ := hmatched.2
        have hrooted : ∀ from_, some (HookOrigin.mk trigger.node
            (s.stores.hookRoot observer.requester)) = some from_ →
            from_.hookRoot = s.stores.hookRoot observer.requester := by
          rintro from_ ⟨⟩
          rfl
        have hfollow : scan.followDepending? scan.evaluate? _ _ _ _ (observer.chain + 1) _ _ = _ :=
          followDepending?_eq (evaluate_runs scan) (evaluate?_eq scan) hs hmatched hparameter hrole
            (.hooked hawaits htrigger hfires hargument) hrooted
        simp only [hs.linked.hookRoot?_eq hid, Option.bind_eq_bind, Option.bind_some, hfollow]
        rfl
    | _ => rfl

/-! ## Events -/

theorem findingOf?_eq (hs : scan.Explained s) {store : Store}
    (hroot : s.stores.store? root = some store) :
    scan.findingOf? s root = some (scan.findingOf s root) := by
  simp only [findingOf?, hroot, Option.bind_eq_bind, Option.bind_some,
    hs.linked.project?_eq hroot]
  rfl

theorem emit?_eq (hs : scan.Explained s) {store : Store}
    (hroot : s.stores.store? root = some store) :
    scan.emit? s root = some (scan.emit s root) := by
  simp only [emit?, emit, findingOf?_eq hs hroot, Option.map_some]
  split <;> rfl

theorem emitIfDetected?_eq (hs : scan.Explained s) {store : Store}
    (hroot : s.stores.store? root = some store) :
    scan.emitIfDetected? s root = some (scan.emitIfDetected s root) := by
  simp only [emitIfDetected?, emitIfDetected, Option.bind_eq_bind, Option.bind_some,
    hs.linked.hasDetections?_eq hroot, emit?_eq hs hroot]
  exact (apply_ite some _ _ _).symm

theorem handle?_eq (hs : scan.Explained s) {event : HookEvent} (hdue : scan.Due s event) :
    scan.handle? s event = some (scan.handle s event) := by
  rw [handle?, handle]
  cases hhook : s.hooks.hook? event.hook with
  | none => rfl
  | some hook =>
    cases hobserver : s.hooks.observer? event.hook event.observer with
    | none => rfl
    | some observer =>
      obtain ⟨hrequests, hfires⟩ := hs.requests_of_observer? hhook hobserver hdue
      obtain ⟨top, htop, -⟩ := hs.exists_root hrequests
      have hruns := deliver_runs hs hrequests hdue.site_eq hfires
      have hs' := hruns.explained hs
      obtain ⟨top', htop', -⟩ := hruns.works.grows htop
      simp only [deliver?_eq hs hrequests hdue.site_eq hfires, Option.bind_eq_bind,
        Option.bind_some]
      split
      · exact emitIfDetected?_eq (hs'.removeObserver ..) htop'
      · exact emitIfDetected?_eq hs' htop'

theorem tryRoot?_eq (hs : scan.Explained s) (n : NodeId) (rule : RuleId) :
    scan.tryRoot? n s rule = some (scan.tryRoot n s rule) := by
  have hplant := hs.plant rule
  have hruns := attempt_runs hs n rule
  have hevaluate : scan.evaluateAt? scan.evaluate? .start n (plant s rule) s.stores.size =
      some (scan.attempt n s rule) :=
    evaluateAt?_eq (evaluate?_eq scan) hplant fun _ => ready_plant scan s rule _
  obtain ⟨top, htop, -⟩ := hruns.works.grows (store?_plant s rule)
  have hs' := hruns.explained hplant
  rw [tryRoot_eq]
  simp only [tryRoot?, Arena.createRoot_snd, Option.bind_eq_bind]
  show (scan.evaluateAt? scan.evaluate? .start n (plant s rule) s.stores.size).bind _ = _
  rw [hevaluate]
  simp only [Option.bind_some, hs'.linked.hasDetections?_eq htop, emit?_eq hs' htop]
  split
  · rfl
  · exact (apply_ite some _ _ _).symm

/-! ## The whole scan -/

theorem foldlM_eq_of_take {α β : Type} {f? : β → α → Option β} {f : β → α → β} {l : List α}
    {b : β} (h : ∀ i a, l[i]? = some a →
      f? ((l.take i).foldl f b) a = some (f ((l.take i).foldl f b) a)) :
    l.foldlM f? b = some (l.foldl f b) := by
  induction l generalizing b with
  | nil => rfl
  | cons a l ih =>
    have hfirst : f? b a = some (f b a) := h 0 a rfl
    rw [List.foldlM_cons, hfirst]
    exact ih fun i c hc => h (i + 1) c hc

theorem visit?_eq {count : Nat} {n : NodeId}
    (hnode : (scan.unit.tree.preorder SyntaxTree.root)[count]? = some n) :
    scan.visit? (scan.after count) n = some (scan.visit (scan.after count) n) := by
  have hkept := sound_kept scan
  have hmet := hkept.meet (.meets count) (hkept.after count)
  rw [visit?]
  cases hsite : scan.unit.site? n with
  | none => rw [visit_of_no_site hsite]; rfl
  | some site =>
    have hsite' : scan.unit.site? site.node = some site := by
      rw [CompilationUnit.node_of_site? hsite, hsite]
    have hserved := fun i => hkept.served (i := i) hnode hsite hmet
    have hserve : ((meet (scan.after count)).hooks.observe scan.unit
        (meet (scan.after count)).position site).foldlM scan.handle? (meet (scan.after count)) =
          some (scan.servedAll site (meet (scan.after count))) := by
      rw [servedAll, served, List.take_length]
      refine foldlM_eq_of_take ?_
      intro i event hevent
      obtain ⟨hlt, rfl⟩ := List.getElem?_eq_some_iff.mp hevent
      obtain ⟨hs, hkinds⟩ := hserved i (by omega)
      exact handle?_eq hs.explained
        ((due_of_mem_observe hsite' (List.getElem_mem hlt)).mono hkinds)
    rw [visit_of_site hsite, tried, List.take_length]
    refine (congrArg (Option.bind · fun served => scan.roots.foldlM (scan.tryRoot? n) served)
      hserve).trans ?_
    refine foldlM_eq_of_take ?_
    intro i rule hrule
    have hlt := (List.getElem?_eq_some_iff.mp hrule).1
    have hs := hkept.tried hnode hsite (hserved _ (Nat.le_refl _)).1 (Nat.le_of_lt hlt)
    exact tryRoot?_eq hs.explained n rule

theorem run?_eq (scan : Scan) : scan.run? = some scan.run :=
  foldlM_eq_of_take fun _ _ hnode => visit?_eq hnode

theorem outcome?_eq (scan : Scan) : scan.outcome? = some scan.outcome := by
  have hs : scan.Sound scan.run := run_eq_after scan ▸ sound_after scan _
  have hfindings : scan.run.emitted.mapM (scan.findingOf? scan.run) =
      some (scan.run.emitted.map (scan.findingOf scan.run)) := by
    refine mapM_eq_some ?_
    intro root hroot
    obtain ⟨store, hstore, -⟩ := hs.emitted hroot
    exact findingOf?_eq hs.explained hstore
  simp only [outcome?, run?_eq, Option.bind_eq_bind, Option.bind_some, hfindings]
  rfl

/-- **No place dangles.**  After any number of nodes, an observer waits on behalf of a live store
whose root is the one that the observer names, and that is a live root; the emitted roots are live
roots; and the children, the parent, the root and the hook origin of a live store are live stores.
So no lookup of a scan fails, up to the findings of its outcome. -/
theorem places_are_live (scan : Scan) :
    (∀ count,
      (∀ hook ∈ (scan.after count).hooks.hooks, ∀ entry ∈ hook.observers, ∃ requester top,
        (scan.after count).stores.store? entry.2.requester = some requester ∧
        requester.root = entry.2.root ∧
        (scan.after count).stores.store? entry.2.root = some top ∧
        top.level = 0 ∧ top.parent = none) ∧
      (∀ root ∈ (scan.after count).emitted, ∃ top,
        (scan.after count).stores.store? root = some top ∧ top.level = 0 ∧ top.parent = none) ∧
      (∀ id store, (scan.after count).stores.store? id = some store →
        (∀ child ∈ store.children.items, ∃ below,
          (scan.after count).stores.store? child = some below) ∧
        (∀ p i, store.parent = some (p, i) → ∃ above,
          (scan.after count).stores.store? p = some above) ∧
        (∃ top, (scan.after count).stores.store? store.root = some top) ∧
        (∀ origin, store.hook = some origin → ∃ first,
          (scan.after count).stores.store? origin.hookRoot = some first))) ∧
    scan.run? = some scan.run ∧ scan.outcome? = some scan.outcome := by
  refine ⟨fun count => ?_, run?_eq scan, outcome?_eq scan⟩
  have hs := sound_after scan count
  have hlinked := hs.explained.linked
  refine ⟨fun hook hhook entry hentry => ?_, fun root hroot => ?_, fun id store hid => ?_⟩
  · have hrequests := hs.explained.requests ⟨hook, hhook, rfl, hentry⟩
    obtain ⟨top, htop, hpar, hlevel⟩ := hs.explained.exists_root hrequests
    obtain ⟨-, -, -, _, _, _, _, _, ⟨-, requester, hrequester, hroot, -⟩, -⟩ := hrequests
    exact ⟨requester, top, hrequester, hroot, htop, hlevel, hpar⟩
  · obtain ⟨top, htop, hpar⟩ := hs.emitted hroot
    exact ⟨top, htop, (hlinked.root htop hpar).1, hpar⟩
  · refine ⟨fun child hchild => ?_, fun p i hpar => ?_, ?_, fun origin horigin => ?_⟩
    · obtain ⟨i, hmem⟩ := Slots.mem_items.mp hchild
      obtain ⟨below, hbelow, -⟩ := (hlinked.child hid).mp hmem
      exact ⟨below, hbelow⟩
    · obtain ⟨-, above, habove, -⟩ := hlinked.parent hid hpar
      exact ⟨above, habove⟩
    · obtain ⟨-, top, htop, -⟩ := hlinked.exists_root hid
      exact ⟨top, htop⟩
    · obtain ⟨p, i, hpar, hback⟩ := hs.explained.rooted hid horigin
      obtain ⟨-, above, habove, -⟩ := hlinked.parent hid hpar
      obtain ⟨first, hfirst, -⟩ := hlinked.exists_hookRoot hs.explained.rooted habove
      exact ⟨first, hback ▸ hfirst⟩

end Scan
end CryptoUsage
