import CryptoUsage.Proofs.Arena.Checked
import CryptoUsage.Proofs.Scan.Soundness

/-!
# A scan looks up stores that are there

Places of stores are kept for long: by observers, by the list of emitted roots, by the origins of
hooks.  Meanwhile stores are thrown away and their places are taken by others.  This file states
the scan once more with partial operations on the arena (`run?`), which give up when they look up
a place without a store.

Its functions are those of the scan, one by one and under the same names with a question mark.
Wherever the scan reads a store, its parent, its root or its children, or writes to one, the
checked function asks for the store first and gives `none` if there is none.  Nothing else is
different: the walks through lists are the same, in the monad of `Option`, and the number of rules
that may be followed in a row is the same, too.

## Why it is stated apart

The functions of a scan are total, since each of them has something to do when a place is empty:
nothing is filed, no child is made, a tree is empty.  So that a scan has a result does not show
that all its places are in order.  The checked scan has no such way out.  That it comes to its
end, and to the same outcome, is the theorem of the next file, where each of the functions here is
shown to agree with its unchecked counterpart.

The functions on arenas that may fail, and that they agree with the total ones on live stores, are
in the file on checked arenas.
-/

set_option autoImplicit false

namespace CryptoUsage

/-- How to evaluate the rule of a store at a site, if all stores needed are there. -/
abbrev Evaluator? := ScanState → StoreId → Trace → Site → Option ScanState

namespace Scan

variable (scan : Scan)

/-! ## The scan, checked -/

/-- `ScanState.rootOf`, checked. -/
def rootOf? (s : ScanState) (id : StoreId) : Option StoreId := (s.stores.store? id).map (·.root)

/-- `storeReading`, checked. -/
def storeReading? (id : StoreId) (index : Int) (moveUnder : Option Int) (factory : ValueFactory)
    (s : ScanState) (reading : Reading) : Option ScanState :=
  match factory.create? reading.constant (scan.unit.tree.location reading.node) with
  | none => some s
  | some value =>
    (s.stores.receiveValue? id index moveUnder value).map fun (stores, target) =>
      if target = id then s.withStores stores else (s.withStores stores).plan.start

/-- `storeReadings`, checked. -/
def storeReadings? (id : StoreId) (index : Int) (moveUnder : Option Int) (factory : ValueFactory)
    (s : ScanState) (readings : List Reading) : Option ScanState :=
  readings.foldlM (scan.storeReading? id index moveUnder factory) s

/-- `detectValue`, checked. -/
def detectValue? (id : StoreId) (index : Int) (moveUnder : Option Int) (factoryId : FactoryId)
    (factory : ValueFactory) (s : ScanState) (argument : NodeId) : Option ScanState :=
  match scan.unit.resolveValue scan.config factory [] argument with
  | [] =>
    (rootOf? s id).map fun root =>
      (scan.unit.planHooks scan.config factory.isSize [] argument).foldl
        (scan.waitFor
          { requester := id
            root
            payload := .value index factoryId factory moveUnder
            registeredAt := s.position })
        s
  | readings => scan.storeReadings? id index moveUnder factory s readings

/-- `evaluateAt`, checked. -/
def evaluateAt? (evaluate? : Evaluator?) (trace : Trace) (n : NodeId) (s : ScanState)
    (id : StoreId) : Option ScanState :=
  match scan.unit.site? n with
  | some site => evaluate? s.start id trace site
  | none => some s.start

/-- `evaluateIn`, checked. -/
def evaluateIn? (evaluate? : Evaluator?) (trace : Trace) (scope : NodeId) (s : ScanState)
    (id : StoreId) : Option ScanState :=
  (scan.unit.sitesIn scope).foldlM (fun s site => evaluate? s id trace site) s.start

/-- `follow`, checked. -/
def follow? (run? : ScanState → StoreId → Option ScanState) (parent : StoreId) (index : Int)
    (hook : Option HookOrigin) (s : ScanState) (rule : RuleId) : Option ScanState :=
  (s.stores.createChild? parent index rule hook).bind fun (stores, child) =>
    run? (s.withStores stores).plan child

/-- `followNext`, checked. -/
def followNext? (evaluate? : Evaluator?) (id : StoreId) (rule : Rule) (site : Site)
    (s : ScanState) : Option ScanState :=
  match scan.nextTrace site with
  | .different => some s
  | trace =>
    let scope := scan.unit.enclosingScope site.node
    rule.next.foldlM (follow? (scan.evaluateIn? evaluate? trace scope) id methodLevel none) s

/-- `followDepending`, checked. -/
def followDepending? (evaluate? : Evaluator?) (requester : StoreId) (index : Int)
    (rules : List RuleId) (origin : Option HookOrigin) (chain : Nat) (s : ScanState)
    (argument : NodeId) : Option ScanState :=
  let inner := scan.unwrap argument
  match scan.unit.expression inner with
  | .call _ =>
    rules.foldlM (follow? (scan.evaluateAt? evaluate? .start inner) requester index origin) s
  | .variable symbol =>
    if symbol.kind = .parameter then
      match scan.unit.parameterPosition? symbol with
      | some (method, position) =>
        if chain < scan.config.maxHookChain then
          (rootOf? s requester).map fun root =>
            scan.waitFor
              { requester
                root
                payload := .follow index rules
                chain
                registeredAt := s.position }
              s (.parameter method position [])
        else some s
      | none => some s
    else
      let scope := scan.unit.symbolScope symbol
      rules.foldlM
        (follow? (scan.evaluateIn? evaluate? (.on symbol) scope) requester index origin) s
  | _ => some s

/-- `takes`, checked. -/
def takes? (s : ScanState) (id : StoreId) (store : Store) (rule : Rule) (trace : Trace)
    (site : Site) : Option Bool :=
  (s.stores.isClaimedOnPath? id store.rule site).map fun claimed =>
    rule.matcher.matches scan.unit site (rule.matchContext scan.config.matchSubtypes) &&
      !claimed && decide (store.level < scan.config.maxStoreDepth) &&
      trace.admits (scan.binding site)

/-- `readArgument`, checked. -/
def readArgument? (evaluate? : Evaluator?) (id : StoreId) (ruleId : RuleId) (s : ScanState)
    (entry : (Parameter × NodeId) × Nat) : Option ScanState :=
  let ((parameter, argument), position) := entry
  match parameter.role with
  | .typeOnly => some s
  | .detectable factory =>
    scan.detectValue? id position parameter.moveUnder ⟨ruleId, position⟩ factory s argument
  | .depending rules => scan.followDepending? evaluate? id position rules none 0 s argument

/-- `readArguments`, checked. -/
def readArguments? (evaluate? : Evaluator?) (id : StoreId) (ruleId : RuleId) (rule : Rule)
    (site : Site) (s : ScanState) : Option ScanState :=
  ((rule.parameters.zip (scan.unit.arguments site)).zipIdx).foldlM
    (scan.readArgument? evaluate? id ruleId) s

/-- `grant`, checked. -/
def grant? (s : ScanState) (id : StoreId) (rule : Rule) (site : Site) :
    Option (ScanState × StoreId) := do
  let (stores, target) ← s.stores.claim? id site
  let s := if target = id then s.withStores stores else (s.withStores stores).plan.start
  let stores ← s.stores.modify? target fun store => store.take site (scan.actionOf? rule site)
  return (s.withStores stores, target)

/-- `takeSite`, checked. -/
def takeSite? (evaluate? : Evaluator?) (s : ScanState) (id : StoreId) (ruleId : RuleId)
    (rule : Rule) (site : Site) : Option ScanState := do
  let (s, target) ← scan.grant? s id rule site
  let s ← scan.followNext? evaluate? target rule site s
  if rule.isMethodOnly then some s else scan.readArguments? evaluate? target ruleId rule site s

/-- `evaluateBy`, checked. -/
def evaluateBy? (evaluate? : Evaluator?) : Evaluator? := fun s id trace site => do
  let store ← s.stores.store? id
  match scan.catalog.rule? store.rule with
  | none => some s
  | some rule =>
    if ← scan.takes? s id store rule trace site then
      scan.takeSite? evaluate? s id store.rule rule site
    else some s

/-- `evaluateWithin`, checked. -/
def evaluateWithin? : Nat → Evaluator?
  | 0 => fun s _ _ _ => some s
  | steps + 1 => scan.evaluateBy? (evaluateWithin? steps)

/-- `evaluate`, checked. -/
def evaluate? : Evaluator? := scan.evaluateWithin? scan.catalog.size

/-- `deliverValue`, checked. -/
def deliverValue? (kind : HookKind) (observer : Observer) (index : Int) (factory : ValueFactory)
    (moveUnder : Option Int) (trigger : Site) (s : ScanState) : Option (ScanState × Bool) :=
  match scan.readingsFor? kind factory observer.selections trigger with
  | none => some (s, false)
  | some ([], none) => some (s, false)
  | some ([], some argument) => some (scan.passOn observer factory.isSize argument s, false)
  | some (readings, _) =>
    (scan.storeReadings? observer.requester index moveUnder factory s readings).map (·, true)

/-- `deliverRules`, checked. -/
def deliverRules? (kind : HookKind) (observer : Observer) (index : Int) (rules : List RuleId)
    (trigger : Site) (s : ScanState) : Option (ScanState × Bool) :=
  match kind with
  | .parameter _ _ position =>
    match scan.argument? trigger position with
    | none => some (s, false)
    | some argument => do
      let hookRoot ← s.stores.hookRoot? observer.requester
      let s ← scan.followDepending? scan.evaluate? observer.requester index rules
        (some { trigger := trigger.node, hookRoot }) (observer.chain + 1) s argument
      return (s, true)
  | _ => some (s, false)

/-- `deliver`, checked. -/
def deliver? (kind : HookKind) (observer : Observer) (trigger : Site) (s : ScanState) :
    Option (ScanState × Bool) :=
  match observer.payload with
  | .value index _ factory moveUnder =>
    scan.deliverValue? kind observer index factory moveUnder trigger s
  | .follow index rules => scan.deliverRules? kind observer index rules trigger s

/-- `findingOf`, checked. -/
def findingOf? (s : ScanState) (root : StoreId) : Option Finding := do
  let _ ← s.stores.store? root
  let node ← s.stores.project? root
  return { scan.findingOf s root with root := node }

/-- `emit`, checked. -/
def emit? (s : ScanState) (root : StoreId) : Option ScanState :=
  if s.emitted.contains root then some s
  else
    (scan.findingOf? s root).map fun finding =>
      { s with
        emitted := s.emitted ++ [root]
        reported := if s.reported.any finding.same then s.reported else s.reported ++ [finding] }

/-- `emitIfDetected`, checked. -/
def emitIfDetected? (s : ScanState) (root : StoreId) : Option ScanState := do
  if ← s.stores.hasDetections? root then scan.emit? s root else some s

/-- `handle`, checked. -/
def handle? (s : ScanState) (event : HookEvent) : Option ScanState :=
  match s.hooks.hook? event.hook, s.hooks.observer? event.hook event.observer with
  | some hook, some observer => do
    let (s, satisfied) ← scan.deliver? hook.kind observer event.trigger s
    let s :=
      if satisfied && hook.kind.isOneShot then
        { s with hooks := s.hooks.removeObserver event.hook event.observer }
      else s
    scan.emitIfDetected? s observer.root
  | _, _ => some s

/-- `tryRoot`, checked. -/
def tryRoot? (n : NodeId) (s : ScanState) (rule : RuleId) : Option ScanState := do
  let mark := s.stores.size
  let (stores, root) := s.stores.createRoot rule
  let s ← scan.evaluateAt? scan.evaluate? .start n (s.withStores stores).plan root
  if ← s.stores.hasDetections? root then scan.emit? s root
  else if s.hooks.hasPendingForRoot root then some s
  else some { s with stores := s.stores.truncate mark }

/-- `visit`, checked. -/
def visit? (s : ScanState) (n : NodeId) : Option ScanState :=
  let s := { s with position := s.position + 1 }
  match scan.unit.site? n with
  | none => some s
  | some site => do
    let served ← (s.hooks.observe scan.unit s.position site).foldlM scan.handle? s
    scan.roots.foldlM (scan.tryRoot? n) served

/-- `run`, checked. -/
def run? : Option ScanState := (scan.unit.tree.preorder SyntaxTree.root).foldlM scan.visit? {}

/-- `outcome`, checked. -/
def outcome? : Option ScanOutcome := do
  let s ← scan.run?
  let findings ← s.emitted.mapM (scan.findingOf? s)
  return { scan.outcomeOf s with findings := Finding.dedup findings }

end Scan
end CryptoUsage
