import CryptoUsage.Proofs.Scan.Following

/-!
# A rule at a site

A rule that takes a site gives it to its store, or to a sibling if the store has another site
already; then it follows its next rules and reads the arguments.  All of that is work for the root
(`evaluate_runs`), and so is serving an observer (`deliver_runs`).

These two theorems are what the events of a scan are made of: everything that is proved about the
work for a root holds of the evaluation of a root rule and of what a hook brings about.

## How it goes

* Giving a site.  `grant` is the first part of `takeSite`, named so that it can be reasoned about
  apart from the second (`takeSite_eq`).  A store without a site takes it itself
  (`grant_of_unclaimed`); one that has another gets a sibling, which is made and takes it in one
  step of the work (`grant_of_claimed`).  `grant_runs` puts the two together, and its conclusion
  says of the store what the second part asks for (`Matched`).
* What follows.  Arguments are read one after the other, each for the parameter at its position
  (`readArgument_runs`), where values are looked for or depending rules are followed.
* Evaluation.  If what is followed is evaluated as work for the root, then so is the rule itself
  (`evaluateBy_runs`); `evaluateWithin_runs` is the induction on the number of rules followed in a
  row.
* Observers.  A request for values or for rules is served with the same functions, for the site at
  which its hook fires; what it may write to is in the reason for which it waits.
-/

set_option autoImplicit false

namespace CryptoUsage

namespace Arena

variable {arena : Arena} {id : StoreId} {store : Store} {site : Site}

theorem claim_of_unclaimed (hid : arena.store? id = some store) (hsite : store.site = none) :
    arena.claim id site = (arena.modify id fun store => { store with site := some site }, id) := by
  simp only [claim, hid, hsite, Option.all_none, if_true]

theorem claim_of_claimed {other : Site} {p : StoreId} {i : Int}
    (hid : arena.store? id = some store) (hsite : store.site = some other) (hne : other ≠ site)
    (hpar : store.parent = some (p, i)) :
    arena.claim id site =
      ((arena.createChild p i store.rule store.hook).1.modify arena.size fun store =>
        { store with site := some site }, arena.size) := by
  have hall : store.site.all (· == site) = false := by
    rw [hsite, Option.all_some, beq_eq_false_iff_ne]
    exact hne
  simp only [claim, hid, hall, createSibling, hpar]
  rfl

end Arena

namespace Scan

variable {scan : Scan} {s s' : ScanState} {root : StoreId}

variable (scan) in
/-- The state in which a store, or a sibling made for it, has a site and the action of its rule
there, and the store that has them. -/
def grant (s : ScanState) (id : StoreId) (rule : Rule) (site : Site) : ScanState × StoreId :=
  let (s, target) := s.claim id site
  (s.withStores (s.stores.receiveMethod target site (scan.actionOf? rule site)), target)

theorem takeSite_eq (evaluate : Evaluator) (s : ScanState) (id : StoreId) (ruleId : RuleId)
    (rule : Rule) (site : Site) :
    scan.takeSite evaluate s id ruleId rule site =
      let (s, target) := scan.grant s id rule site
      let s := scan.followNext evaluate target rule site s
      if rule.isMethodOnly then s else scan.readArguments evaluate target ruleId rule site s := rfl

theorem grant_of_unclaimed {id : StoreId} {store : Store} {rule : Rule} {site : Site}
    (hid : s.stores.store? id = some store) (hsite : store.site = none) :
    scan.grant s id rule site = (s.withStores
      (s.stores.modify id fun store => store.take site (scan.actionOf? rule site)), id) := by
  simp only [grant, ScanState.claim, Arena.claim_of_unclaimed hid hsite, if_true,
    Arena.receiveMethod, ScanState.withStores_stores, Arena.modify_modify]
  rw [ScanState.withStores_withStores _ (by simp) (by simp)]
  rfl

theorem grant_of_claimed {id p : StoreId} {i : Int} {store : Store} {rule : Rule}
    {site other : Site} (hid : s.stores.store? id = some store) (hsite : store.site = some other)
    (hne : other ≠ site) (hpar : store.parent = some (p, i)) :
    scan.grant s id rule site =
      let made := (s.withStores (s.stores.createChild p i store.rule store.hook).1).plan.start
      (made.withStores (made.stores.modify s.stores.size fun store =>
        store.take site (scan.actionOf? rule site)), s.stores.size) := by
  have hnew : s.stores.size ≠ id := Nat.ne_of_gt (Arena.lt_size_of_store? hid)
  simp only [grant, ScanState.claim, Arena.claim_of_claimed hid hsite hne hpar, if_neg hnew,
    Arena.receiveMethod, ScanState.stores_plan, ScanState.stores_start,
    ScanState.withStores_stores, Arena.modify_modify]
  refine Prod.ext ?_ rfl
  simp [ScanState.withStores, ScanState.plan, ScanState.start, Store.take]

/-- The site goes to a store of the tree, for the rule that takes it. -/
theorem grant_runs (hs : scan.Explained s) {id : StoreId} {store : Store} {rule : Rule}
    {trace : Trace} {site : Site} (hready : scan.Ready s root id trace site)
    (hid : s.stores.store? id = some store) (hrule : scan.catalog.rule? store.rule = some rule)
    (htakes : scan.takes s id store rule trace site = true) :
    scan.Runs root s (scan.grant s id rule site).1 ∧
      scan.Matched (scan.grant s id rule site).1 root (scan.grant s id rule site).2 store.rule rule
        site := by
  obtain ⟨store', hid', hroot, hblank, hfresh, hleads⟩ := hready.store_eq
  cases hid.symm.trans hid'
  simp only [takes, Bool.and_eq_true, Bool.not_eq_true', decide_eq_true_eq] at htakes
  obtain ⟨⟨⟨hmatches, hfree⟩, hshallow⟩, hadmits⟩ := htakes
  cases hsite : store.site with
  | none =>
    rw [grant_of_unclaimed hid hsite]
    refine ⟨.single (.take ⟨hid, hroot, hsite, hblank hsite, hrule, hmatches, hfree, hshallow,
      fun {p i} hpar => ?_⟩), hrule, _, Arena.store?_modify_self hid _, hroot, rfl, rfl⟩
    obtain ⟨aboveId, above, found, hmatched, hlead⟩ := hleads p i hpar
    exact ⟨aboveId, above, found, hmatched, hlead hadmits⟩
  | some other =>
    cases hpar : store.parent with
    | none => rw [hfresh hpar] at hsite; cases hsite
    | some above =>
      obtain ⟨p, i⟩ := above
      have hne : other ≠ site := hs.linked.ne_of_isClaimedOnPath hid hsite hfree
      obtain ⟨aboveId, above, found, hmatched, hlead⟩ := hleads p i hpar
      obtain ⟨-, above', habove', hlevel, -⟩ := hs.linked.parent hid hpar
      have hroot' : above'.root = root := hmatched.root_eq habove'
      have hshallow' : above'.level + 1 < scan.config.maxStoreDepth := hlevel ▸ hshallow
      have hrooted : ∀ origin, store.hook = some origin → origin.hookRoot = s.stores.hookRoot p :=
        fun origin horigin => hs.rooted.hookRoot_eq hid horigin hpar
      have hmade : scan.Runs root s
          (s.withStores (s.stores.createChild p i store.rule store.hook).1).plan.start :=
        ((Relation.ReflTransGen.single (.follow hmatched (hlead hadmits).follows hrooted)).tail
          (.plan _)).tail (.start _)
      have hnew := Arena.store?_createChild_new habove' i store.rule store.hook
      rw [grant_of_claimed hid hsite hne hpar]
      refine ⟨hmade.tail (.take ⟨hnew, hroot', rfl, Store.isBlank_under .., hrule, hmatches, ?_,
        hshallow', fun {p' i'} hpar' => ?_⟩), hrule, _, Arena.store?_modify_self hnew _, hroot',
        rfl, rfl⟩
      · exact hs.linked.isClaimedOnPath_createChild habove'
          (hs.linked.isClaimedOnPath_parent hid hpar hfree)
      · obtain ⟨rfl, rfl⟩ := Prod.mk.inj (Option.some.inj hpar')
        exact ⟨aboveId, above, found, hmatched.runs hmade, hlead hadmits⟩

theorem readArgument_runs {evaluate : Evaluator} (he : scan.Evaluates evaluate)
    (hs : scan.Explained s) {id : StoreId} {ruleId : RuleId} {rule : Rule} {site : Site}
    {parameter : Parameter} {argument : NodeId} {position : Nat}
    (h : scan.Matched s root id ruleId rule site)
    (hparameter : rule.parameters[position]? = some parameter)
    (hargument : scan.argument? site position = some argument) :
    scan.Runs root s
      (scan.readArgument evaluate id ruleId s ((parameter, argument), position)) := by
  simp only [readArgument]
  cases hrole : parameter.role with
  | typeOnly => exact .refl
  | detectable factory => exact detectValue_runs h hparameter hrole argument
  | depending rules =>
    exact followDepending_runs he hs h hparameter hrole (.direct hargument) nofun

theorem readArguments_runs {evaluate : Evaluator} (he : scan.Evaluates evaluate)
    (hs : scan.Explained s) {id : StoreId} {ruleId : RuleId} {rule : Rule} {site : Site}
    (h : scan.Matched s root id ruleId rule site) :
    scan.Runs root s (scan.readArguments evaluate id ruleId rule site s) := by
  refine Runs.foldl ?_
  intro s' hruns entry hentry
  obtain ⟨⟨parameter, argument⟩, position⟩ := entry
  have hat := List.mem_zipIdx_iff_getElem?.mp hentry
  obtain ⟨hparameter, hargument⟩ := List.getElem?_zip_eq_some.mp hat
  exact readArgument_runs he (hruns.explained hs) (h.runs hruns) hparameter hargument

/-- What is done once a site was given to a store: the next rules are followed and the arguments are
read. -/
theorem takeSite_runs {evaluate : Evaluator} (he : scan.Evaluates evaluate) {id : StoreId}
    {ruleId : RuleId} {rule : Rule} {site : Site}
    (hs : scan.Explained (scan.grant s id rule site).1)
    (h : scan.Matched (scan.grant s id rule site).1 root (scan.grant s id rule site).2 ruleId rule
      site) :
    scan.Runs root (scan.grant s id rule site).1
      (scan.takeSite evaluate s id ruleId rule site) := by
  have hnext := followNext_runs he hs h
  simp only [takeSite_eq]
  split
  · exact hnext
  · exact hnext.trans (readArguments_runs he (hnext.explained hs) (h.runs hnext))

theorem evaluateBy_runs {evaluate : Evaluator} (he : scan.Evaluates evaluate) :
    scan.Evaluates (scan.evaluateBy evaluate) := by
  intro s root id trace site hs hready
  rw [evaluateBy]
  cases hid : s.stores.store? id with
  | none => exact .refl
  | some store =>
    simp only
    cases hrule : scan.catalog.rule? store.rule with
    | none => exact .refl
    | some rule =>
      simp only
      split
      · next htakes =>
        obtain ⟨hgrant, hmatched⟩ := grant_runs hs hready hid hrule htakes
        exact hgrant.trans (takeSite_runs he (hgrant.explained hs) hmatched)
      · exact .refl

theorem evaluateWithin_runs (scan : Scan) (steps : Nat) :
    scan.Evaluates (scan.evaluateWithin steps) := by
  induction steps with
  | zero => exact fun _ _ => .refl
  | succ steps ih => exact evaluateBy_runs ih

/-- **Evaluating a rule is work for the root of its store.** -/
theorem evaluate_runs (scan : Scan) : scan.Evaluates scan.evaluate :=
  evaluateWithin_runs scan scan.catalog.size

/-! ## Serving observers -/

theorem deliverValue_runs {kind : HookKind} {observer : Observer} {index : Int} {id : FactoryId}
    {factory : ValueFactory} {moveUnder : Option Int} (hroot : observer.root = root)
    (h : scan.Requests s kind observer)
    (hpayload : observer.payload = .value index id factory moveUnder) (trigger : Site) :
    scan.Runs root s (scan.deliverValue kind observer index factory moveUnder trigger s).1 := by
  obtain ⟨-, -, -, ruleId, rule, site, position, parameter, hmatched, hparameter, hfits⟩ := h
  rw [hpayload] at hfits
  have hmay : scan.MayFile s root observer.requester ruleId index moveUnder := by
    obtain ⟨hindex, -, hrole, hmove⟩ := hfits
    exact ⟨rule, site, position, parameter, factory, hroot ▸ hmatched, hparameter, hrole, hmove,
      hindex⟩
  rw [deliverValue]
  split
  · exact .refl
  · exact .refl
  · next argument _ =>
    rw [passOn]
    simp only
    split
    · exact .refl
    · next hchain =>
      refine waitFor_foldl_runs (fun {plan kind' selections} _ hhook => ?_) hroot rfl
      refine ⟨offers_of_hookOf? hhook, Nat.le_refl _, Nat.le_of_not_lt hchain, ruleId, rule, site,
        position, parameter, hmatched, hparameter, ?_⟩
      simp only [hpayload]
      exact hfits
  · exact storeReadings_runs hmay ..

theorem deliverRules_runs {kind : HookKind} {observer : Observer} {index : Int}
    {rules : List RuleId} (hs : scan.Explained s) (hroot : observer.root = root)
    (h : scan.Requests s kind observer) (hpayload : observer.payload = .follow index rules)
    {trigger : Site} (htrigger : scan.unit.site? trigger.node = some trigger)
    (hfires : kind.fires scan.unit trigger = true) :
    scan.Runs root s (scan.deliverRules kind observer index rules trigger s).1 := by
  obtain ⟨-, -, -, ruleId, rule, site, position, parameter, hmatched, hparameter, hfits⟩ := h
  rw [hpayload] at hfits
  obtain ⟨rfl, hrole, hawaits⟩ := hfits
  cases kind with
  | parameter method matcher place =>
    simp only [deliverRules]
    cases hargument : scan.argument? trigger place with
    | none => exact .refl
    | some argument =>
      refine followDepending_runs (evaluate_runs scan) hs (hroot ▸ hmatched) hparameter hrole
        (.hooked hawaits htrigger hfires hargument) fun origin horigin => ?_
      cases horigin
      rfl
  | _ => exact .refl

/-- **Serving an observer is work for the root on whose behalf it waits.** -/
theorem deliver_runs {kind : HookKind} {observer : Observer} (hs : scan.Explained s)
    (h : scan.Requests s kind observer) {trigger : Site}
    (htrigger : scan.unit.site? trigger.node = some trigger)
    (hfires : kind.fires scan.unit trigger = true) :
    scan.Runs observer.root s (scan.deliver kind observer trigger s).1 := by
  rw [deliver]
  split
  · next index id factory moveUnder hpayload => exact deliverValue_runs rfl h hpayload trigger
  · next index rules hpayload => exact deliverRules_runs hs rfl h hpayload htrigger hfires

end Scan

end CryptoUsage
