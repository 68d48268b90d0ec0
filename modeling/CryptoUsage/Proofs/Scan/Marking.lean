import CryptoUsage.Proofs.Resolution.Marking
import CryptoUsage.Proofs.Scan.Soundness

/-!
# Evaluating with marks

A scan has one set of marks for all its searches.  Here evaluating rules, serving observers and
trying root rules are stated with the marks handed on from one search to the next, in the order in
which the searches are made.

As every search leaves the marks as it found them, so does everything that is made of searches: from
no marks the work comes to the same state as without them, and in the end there are none
(`evaluate_yields`, `handle_yields`, `tryRoot_yields`).
-/

set_option autoImplicit false

namespace CryptoUsage
namespace Marked

variable (scan : Scan)

/-! ## Evaluating rules -/

/-- How to evaluate the rule of a store at a site, with marks. -/
abbrev Evaluator := ScanState → StoreId → Trace → Site → Marking ScanState

/-- The state after the value of an argument is looked for. -/
def detectValue (id : StoreId) (index : Int) (moveUnder : Option Int) (factoryId : FactoryId)
    (factory : ValueFactory) (s : ScanState) (argument : NodeId) : Marking ScanState := do
  match ← resolveValue scan.unit scan.config factory [] argument with
  | [] =>
    let plans ← planHooks scan.unit scan.config factory.isSize [] argument
    return plans.foldl
      (scan.waitFor
        { requester := id
          root := s.rootOf id
          payload := .value index factoryId factory moveUnder
          registeredAt := s.position })
      s
  | readings => return scan.storeReadings id index moveUnder factory s readings

/-- The state after a rule is evaluated at a node. -/
def evaluateAt (evaluate : Evaluator) (trace : Trace) (n : NodeId) (s : ScanState) (id : StoreId) :
    Marking ScanState :=
  match scan.unit.site? n with
  | some site => evaluate s.start id trace site
  | none => pure s.start

/-- The state after a rule is evaluated at every site of a subtree. -/
def evaluateIn (evaluate : Evaluator) (trace : Trace) (scope : NodeId) (s : ScanState)
    (id : StoreId) : Marking ScanState :=
  (scan.unit.sitesIn scope).foldlM (fun s site => evaluate s id trace site) s.start

/-- The state after a rule is followed. -/
def follow (run : ScanState → StoreId → Marking ScanState) (parent : StoreId) (index : Int)
    (hook : Option HookOrigin) (s : ScanState) (rule : RuleId) : Marking ScanState :=
  let (stores, child) := s.stores.createChild parent index rule hook
  run (s.withStores stores).plan child

/-- The state after the next rules of a matched rule are followed. -/
def followNext (evaluate : Evaluator) (id : StoreId) (rule : Rule) (site : Site) (s : ScanState) :
    Marking ScanState :=
  match scan.nextTrace site with
  | .different => pure s
  | trace =>
    let scope := scan.unit.enclosingScope site.node
    rule.next.foldlM (follow (evaluateIn scan evaluate trace scope) id methodLevel none) s

/-- The state after depending rules are followed from an argument. -/
def followDepending (evaluate : Evaluator) (requester : StoreId) (index : Int)
    (rules : List RuleId) (origin : Option HookOrigin) (chain : Nat) (s : ScanState)
    (argument : NodeId) : Marking ScanState :=
  let inner := scan.unwrap argument
  match scan.unit.expression inner with
  | .call _ =>
    rules.foldlM (follow (evaluateAt scan evaluate .start inner) requester index origin) s
  | .variable symbol =>
    if symbol.kind = .parameter then
      match scan.unit.parameterPosition? symbol with
      | some (method, position) =>
        if chain < scan.config.maxHookChain then
          pure (scan.waitFor
            { requester
              root := s.rootOf requester
              payload := .follow index rules
              chain
              registeredAt := s.position }
            s (.parameter method position []))
        else pure s
      | none => pure s
    else
      let scope := scan.unit.symbolScope symbol
      rules.foldlM (follow (evaluateIn scan evaluate (.on symbol) scope) requester index origin) s
  | _ => pure s

/-- The state after one argument of a matched site is read. -/
def readArgument (evaluate : Evaluator) (id : StoreId) (ruleId : RuleId) (s : ScanState)
    (entry : (Parameter × NodeId) × Nat) : Marking ScanState :=
  let ((parameter, argument), position) := entry
  match parameter.role with
  | .typeOnly => pure s
  | .detectable factory =>
    detectValue scan id position parameter.moveUnder ⟨ruleId, position⟩ factory s argument
  | .depending rules => followDepending scan evaluate id position rules none 0 s argument

/-- The state after the arguments of a matched site are read. -/
def readArguments (evaluate : Evaluator) (id : StoreId) (ruleId : RuleId) (rule : Rule)
    (site : Site) (s : ScanState) : Marking ScanState :=
  ((rule.parameters.zip (scan.unit.arguments site)).zipIdx).foldlM
    (readArgument scan evaluate id ruleId) s

/-- The state after a store is given a site that its rule takes. -/
def takeSite (evaluate : Evaluator) (s : ScanState) (id : StoreId) (ruleId : RuleId) (rule : Rule)
    (site : Site) : Marking ScanState := do
  let (s, target) := scan.grant s id rule site
  let s ← followNext scan evaluate target rule site s
  if rule.isMethodOnly then return s
  else readArguments scan evaluate target ruleId rule site s

/-- The state after the rule of a store is evaluated at a site, given how to evaluate what is
followed. -/
def evaluateBy (evaluate : Evaluator) : Evaluator := fun s id trace site =>
  match s.stores.store? id with
  | none => pure s
  | some store =>
    match scan.catalog.rule? store.rule with
    | none => pure s
    | some rule =>
      if scan.takes s id store rule trace site then
        takeSite scan evaluate s id store.rule rule site
      else pure s

/-- The state after the rule of a store is evaluated at a site, following at most `steps` rules in a
row. -/
def evaluateWithin : Nat → Evaluator
  | 0 => fun s _ _ _ => pure s
  | steps + 1 => evaluateBy scan (evaluateWithin steps)

/-- The state after the rule of a store is evaluated at a site. -/
def evaluate : Evaluator := evaluateWithin scan scan.catalog.size

variable {scan}

/-- Evaluating with marks comes to the same state as without them. -/
def Evaluator.Agrees (evaluate : Evaluator) (plain : CryptoUsage.Evaluator) : Prop :=
  ∀ s id trace site, Yields ∅ (evaluate s id trace site) (plain s id trace site)

theorem detectValue_yields (scan : Scan) (id : StoreId) (index : Int) (moveUnder : Option Int)
    (factoryId : FactoryId) (factory : ValueFactory) (s : ScanState) (argument : NodeId) :
    Yields ∅ (detectValue scan id index moveUnder factoryId factory s argument)
      (scan.detectValue id index moveUnder factoryId factory s argument) := by
  refine (resolveValue_yields scan.unit scan.config factory [] argument).bind ?_
  rw [Scan.detectValue]
  cases scan.unit.resolveValue scan.config factory [] argument with
  | nil => exact (planHooks_yields ..).bind (yields_pure _)
  | cons reading readings => exact yields_pure _

section Following

variable {evaluate : Evaluator} {plain : CryptoUsage.Evaluator}

theorem evaluateAt_yields (h : evaluate.Agrees plain) (trace : Trace) (n : NodeId) (s : ScanState)
    (id : StoreId) :
    Yields ∅ (evaluateAt scan evaluate trace n s id) (scan.evaluateAt plain trace n s id) := by
  rw [evaluateAt, Scan.evaluateAt]
  cases scan.unit.site? n with
  | some site => exact h ..
  | none => exact yields_pure _

theorem evaluateIn_yields (h : evaluate.Agrees plain) (trace : Trace) (scope : NodeId)
    (s : ScanState) (id : StoreId) :
    Yields ∅ (evaluateIn scan evaluate trace scope s id) (scan.evaluateIn plain trace scope s id) :=
  yields_foldlM (fun s site => h s id trace site) ..

theorem follow_foldlM_yields {run : ScanState → StoreId → Marking ScanState}
    {plainRun : ScanState → StoreId → ScanState} (h : ∀ s id, Yields ∅ (run s id) (plainRun s id))
    (parent : StoreId) (index : Int) (hook : Option HookOrigin) (s : ScanState)
    (rules : List RuleId) :
    Yields ∅ (rules.foldlM (follow run parent index hook) s)
      (rules.foldl (Scan.follow plainRun parent index hook) s) :=
  yields_foldlM (fun _ _ => h ..) ..

theorem followNext_yields (h : evaluate.Agrees plain) (id : StoreId) (rule : Rule) (site : Site)
    (s : ScanState) :
    Yields ∅ (followNext scan evaluate id rule site s) (scan.followNext plain id rule site s) := by
  rw [followNext, Scan.followNext]
  cases scan.nextTrace site with
  | different => exact yields_pure s
  | _ => exact follow_foldlM_yields (evaluateIn_yields h _ _) ..

theorem followDepending_yields (h : evaluate.Agrees plain) (requester : StoreId) (index : Int)
    (rules : List RuleId) (origin : Option HookOrigin) (chain : Nat) (s : ScanState)
    (argument : NodeId) :
    Yields ∅ (followDepending scan evaluate requester index rules origin chain s argument)
      (scan.followDepending plain requester index rules origin chain s argument) := by
  simp only [followDepending, Scan.followDepending]
  cases scan.unit.expression (scan.unwrap argument) with
  | call site => exact follow_foldlM_yields (evaluateAt_yields h _ _) ..
  | «variable» symbol =>
    simp only
    split
    · cases scan.unit.parameterPosition? symbol with
      | none => exact yields_pure s
      | some place =>
        simp only
        split <;> exact yields_pure _
    · exact follow_foldlM_yields (evaluateIn_yields h _ _) ..
  | _ => exact yields_pure s

theorem readArguments_yields (h : evaluate.Agrees plain) (id : StoreId) (ruleId : RuleId)
    (rule : Rule) (site : Site) (s : ScanState) :
    Yields ∅ (readArguments scan evaluate id ruleId rule site s)
      (scan.readArguments plain id ruleId rule site s) := by
  refine yields_foldlM (fun s entry => ?_) ..
  simp only [readArgument, Scan.readArgument]
  cases entry.1.1.role with
  | typeOnly => exact yields_pure s
  | detectable factory => exact detectValue_yields ..
  | depending rules => exact followDepending_yields h ..

theorem evaluateBy_yields (h : evaluate.Agrees plain) :
    (evaluateBy scan evaluate).Agrees (scan.evaluateBy plain) := by
  intro s id trace site
  rw [evaluateBy, Scan.evaluateBy]
  cases s.stores.store? id with
  | none => exact yields_pure s
  | some store =>
    simp only
    cases scan.catalog.rule? store.rule with
    | none => exact yields_pure s
    | some rule =>
      simp only
      split
      · rw [takeSite, Scan.takeSite_eq]
        refine (followNext_yields h ..).bind ?_
        simp only
        split
        · exact yields_pure _
        · exact readArguments_yields h ..
      · exact yields_pure s

end Following

theorem evaluateWithin_yields (scan : Scan) (steps : Nat) :
    (evaluateWithin scan steps).Agrees (scan.evaluateWithin steps) := by
  induction steps with
  | zero => exact fun s _ _ _ => yields_pure s
  | succ steps ih => exact evaluateBy_yields ih

/-- **Evaluating a rule leaves no mark behind.** -/
theorem evaluate_yields (scan : Scan) : (evaluate scan).Agrees scan.evaluate :=
  evaluateWithin_yields scan scan.catalog.size

/-! ## Serving observers -/

variable (scan)

/-- The state in which a request for a value waits further out. -/
def passOn (observer : Observer) (size : Bool) (argument : NodeId) (s : ScanState) :
    Marking ScanState := do
  let chain := observer.chain + 1
  if scan.config.maxHookChain < chain then return s
  else
    let plans ← planHooks scan.unit scan.config size observer.selections argument
    return plans.foldl (scan.waitFor { observer with chain, registeredAt := s.position }) s

/-- What to read for a request for values when its hook fires at a site. -/
def readingsFor? (kind : HookKind) (factory : ValueFactory) (selections : List String)
    (trigger : Site) : Marking (Option (List Reading × Option NodeId)) :=
  match kind with
  | .parameter _ _ position =>
    match scan.argument? trigger position with
    | none => pure none
    | some argument => do
      let readings ← resolveValue scan.unit scan.config factory selections argument
      return some (readings, some argument)
  | .result method _ => do
    let readings ← resolveReturns scan.unit scan.config factory selections method trigger
    return some (readings, none)
  | .enum _ => do
    let readings ← resolveValue scan.unit scan.config factory selections trigger.node
    return some (readings, none)

/-- The state after a request for values is served at a site, and whether it got any. -/
def deliverValue (kind : HookKind) (observer : Observer) (index : Int) (factory : ValueFactory)
    (moveUnder : Option Int) (trigger : Site) (s : ScanState) : Marking (ScanState × Bool) := do
  match ← readingsFor? scan kind factory observer.selections trigger with
  | none => return (s, false)
  | some ([], none) => return (s, false)
  | some ([], some argument) =>
    let s ← passOn scan observer factory.isSize argument s
    return (s, false)
  | some (readings, _) =>
    return (scan.storeReadings observer.requester index moveUnder factory s readings, true)

/-- The state after a request to follow rules is served at a site, and whether there was anything to
follow them from. -/
def deliverRules (kind : HookKind) (observer : Observer) (index : Int) (rules : List RuleId)
    (trigger : Site) (s : ScanState) : Marking (ScanState × Bool) :=
  match kind with
  | .parameter _ _ position =>
    match scan.argument? trigger position with
    | none => pure (s, false)
    | some argument => do
      let origin : HookOrigin :=
        { trigger := trigger.node, hookRoot := s.stores.hookRoot observer.requester }
      let s ← followDepending scan (evaluate scan) observer.requester index rules (some origin)
        (observer.chain + 1) s argument
      return (s, true)
  | _ => pure (s, false)

/-- The state after an observer is served at a site, and whether it got what it waited for. -/
def deliver (kind : HookKind) (observer : Observer) (trigger : Site) (s : ScanState) :
    Marking (ScanState × Bool) :=
  match observer.payload with
  | .value index _ factory moveUnder =>
    deliverValue scan kind observer index factory moveUnder trigger s
  | .follow index rules => deliverRules scan kind observer index rules trigger s

/-- The state after an event is handled. -/
def handle (s : ScanState) (event : HookEvent) : Marking ScanState :=
  match s.hooks.hook? event.hook, s.hooks.observer? event.hook event.observer with
  | some hook, some observer => do
    let (s, satisfied) ← deliver scan hook.kind observer event.trigger s
    let s :=
      if satisfied && hook.kind.isOneShot then
        { s with hooks := s.hooks.removeObserver event.hook event.observer }
      else s
    return scan.emitIfDetected s observer.root
  | _, _ => pure s

variable {scan}

theorem passOn_yields (scan : Scan) (observer : Observer) (size : Bool) (argument : NodeId)
    (s : ScanState) :
    Yields ∅ (passOn scan observer size argument s) (scan.passOn observer size argument s) := by
  simp only [passOn, Scan.passOn]
  split
  · exact yields_pure s
  · exact (planHooks_yields ..).bind (yields_pure _)

theorem readingsFor?_yields (scan : Scan) (kind : HookKind) (factory : ValueFactory)
    (selections : List String) (trigger : Site) :
    Yields ∅ (readingsFor? scan kind factory selections trigger)
      (scan.readingsFor? kind factory selections trigger) := by
  cases kind with
  | parameter method matcher position =>
    simp only [readingsFor?, Scan.readingsFor?]
    cases scan.argument? trigger position with
    | none => exact yields_pure none
    | some argument => exact (resolveValue_yields ..).bind (yields_pure _)
  | result method matcher => exact (resolveReturns_yields ..).bind (yields_pure _)
  | enum name => exact (resolveValue_yields ..).bind (yields_pure _)

theorem deliverValue_yields (scan : Scan) (kind : HookKind) (observer : Observer) (index : Int)
    (factory : ValueFactory) (moveUnder : Option Int) (trigger : Site) (s : ScanState) :
    Yields ∅ (deliverValue scan kind observer index factory moveUnder trigger s)
      (scan.deliverValue kind observer index factory moveUnder trigger s) := by
  refine (readingsFor?_yields scan kind factory observer.selections trigger).bind ?_
  rw [Scan.deliverValue]
  rcases scan.readingsFor? kind factory observer.selections trigger with
    _ | ⟨_ | ⟨reading, readings⟩, _ | argument⟩
  · exact yields_pure _
  · exact yields_pure _
  · exact (passOn_yields ..).bind (yields_pure _)
  · exact yields_pure _
  · exact yields_pure _

theorem deliverRules_yields (scan : Scan) (kind : HookKind) (observer : Observer) (index : Int)
    (rules : List RuleId) (trigger : Site) (s : ScanState) :
    Yields ∅ (deliverRules scan kind observer index rules trigger s)
      (scan.deliverRules kind observer index rules trigger s) := by
  cases kind with
  | parameter method matcher position =>
    simp only [deliverRules, Scan.deliverRules]
    cases scan.argument? trigger position with
    | none => exact yields_pure _
    | some argument =>
      exact (followDepending_yields (evaluate_yields scan) ..).bind (yields_pure _)
  | _ => exact yields_pure _

theorem deliver_yields (scan : Scan) (kind : HookKind) (observer : Observer) (trigger : Site)
    (s : ScanState) :
    Yields ∅ (deliver scan kind observer trigger s) (scan.deliver kind observer trigger s) := by
  rw [deliver, Scan.deliver]
  cases observer.payload with
  | value => exact deliverValue_yields ..
  | follow => exact deliverRules_yields ..

/-- **Handling an event leaves no mark behind.** -/
theorem handle_yields (scan : Scan) (s : ScanState) (event : HookEvent) :
    Yields ∅ (handle scan s event) (scan.handle s event) := by
  rw [handle, Scan.handle]
  cases s.hooks.hook? event.hook with
  | none => exact yields_pure s
  | some hook =>
    cases s.hooks.observer? event.hook event.observer with
    | none => exact yields_pure s
    | some observer => exact (deliver_yields ..).bind (yields_pure _)

/-! ## Trying root rules -/

variable (scan)

/-- The state after the rule of a new root is evaluated at a node. -/
def attempt (n : NodeId) (s : ScanState) (rule : RuleId) : Marking ScanState :=
  evaluateAt scan (evaluate scan) .start n (Scan.plant s rule) s.stores.size

/-- The state after a root rule is tried at a node. -/
def tryRoot (n : NodeId) (s : ScanState) (rule : RuleId) : Marking ScanState := do
  let mark := s.stores.size
  let s ← attempt scan n s rule
  return if s.stores.hasDetections mark then scan.emit s mark
    else if s.hooks.hasPendingForRoot mark then s
    else { s with stores := s.stores.truncate mark }

variable {scan}

theorem attempt_yields (scan : Scan) (n : NodeId) (s : ScanState) (rule : RuleId) :
    Yields ∅ (attempt scan n s rule) (scan.attempt n s rule) :=
  evaluateAt_yields (evaluate_yields scan) ..

/-- **Trying a root rule leaves no mark behind.** -/
theorem tryRoot_yields (scan : Scan) (n : NodeId) (s : ScanState) (rule : RuleId) :
    Yields ∅ (tryRoot scan n s rule) (scan.tryRoot n s rule) := by
  rw [Scan.tryRoot_eq]
  exact (attempt_yields scan n s rule).bind (yields_pure _)

end Marked
end CryptoUsage
