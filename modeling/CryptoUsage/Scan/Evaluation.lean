import CryptoUsage.Detection.Plan
import CryptoUsage.Detection.Trace
import CryptoUsage.Scan.State

/-!
# Evaluating rules

To evaluate the rule of a store at a site is to ask whether the rule matches there and continues
the story it was followed for; and if so, to give the site to the store, to note the action, to
follow the next rules through the scope of the site, and to read the arguments.  An argument that
has no constant yet is waited for by hooks.

Following a rule evaluates it at other sites, so evaluation is stated given how to evaluate what
is followed (`Evaluator`).  A rule refers to earlier rules of the catalog only, so following ends
after at most as many steps as there are rules; that is the measure of `evaluateWithin`.

## What is here

* The object of a site: its binding, whether it is an argument of a call close above it, and the
  trace for what is followed from it.
* Waiting.  `hookOf?` makes a hook of a plan, and `waitFor` registers an observer on it.
* Values.  `storeReading` files one reading, `detectValue` looks for the value of an argument and
  waits for it if there is none.
* Following rules: `follow` makes a store and runs the rule there; `followNext` does so through a
  scope, `followDepending` from an argument.
* A rule at a site.  `takes` is the test that comes first, and has no effect; `takeSite` is what
  is done after it.
-/

set_option autoImplicit false

namespace CryptoUsage

/-- How to evaluate the rule of a store at a site. -/
abbrev Evaluator := ScanState → StoreId → Trace → Site → ScanState

namespace Scan

variable (scan : Scan)

/-! ## The object of a site -/

/-- What is inside the parentheses and casts around an expression. -/
def unwrap (n : NodeId) : NodeId := scan.unit.unwrap scan.config n

/-- How a site relates to variables.  It acts on its receiver if that is a variable, and otherwise
on the variable that takes its result. -/
def binding (site : Site) : Binding :=
  let assigned := scan.unit.assignedSymbol? site.node
  let receiver := (scan.unit.receiver? site).map fun r => scan.unit.expression (scan.unwrap r)
  match receiver with
  | some (.variable s) => { bound := some s, assigned, chained := false }
  | some (.call _) => { bound := assigned, assigned, chained := true }
  | _ => { bound := assigned, assigned, chained := false }

/-- How far above a node the call is looked for whose argument it may be. -/
def argumentReach : Nat := 3

/-- Whether a node is an argument of a site close above it. -/
def isArgument (n : NodeId) : Bool :=
  (((scan.unit.tree.ancestors n).take argumentReach).filterMap scan.unit.site?).any fun site =>
    (scan.unit.arguments site).any fun argument => scan.unwrap argument == n

/-- The trace for the rules that are followed from a site.  A result that is handed to another call
is not followed. -/
def nextTrace (site : Site) : Trace :=
  if scan.isArgument site.node then .different
  else
    match (scan.binding site).bound with
    | some s => .on s
    | none => .unnamed

/-! ## Waiting -/

/-- The hook that a plan asks for, and the selections to make. -/
def hookOf? : HookPlan → Option (HookKind × List String)
  | .parameter method index selections =>
    (scan.unit.methodMatcher? method).map fun matcher =>
      (.parameter method matcher index, selections)
  | .result method selections =>
    (scan.unit.methodMatcher? method).map fun matcher => (.result method matcher, selections)
  | .enum name selections => some (.enum name, selections)

/-- The state in which an observer waits for what is planned. -/
def waitFor (observer : Observer) (s : ScanState) (plan : HookPlan) : ScanState :=
  match scan.hookOf? plan with
  | some (kind, selections) =>
    { s with hooks := (s.hooks.register kind { observer with selections }).1 }
  | none => s

/-! ## Values -/

/-- The state after the value that a factory makes of a reading is filed in a store.  A value that
is moved goes to a store of its own, which is complete at once. -/
def storeReading (id : StoreId) (index : Int) (moveUnder : Option Int) (factory : ValueFactory)
    (s : ScanState) (reading : Reading) : ScanState :=
  match factory.create? reading.constant (scan.unit.tree.location reading.node) with
  | none => s
  | some value =>
    let (stores, target) := s.stores.receiveValue id index moveUnder value
    if target = id then s.withStores stores else (s.withStores stores).plan.start

/-- The state after the values of all the readings are filed in a store. -/
def storeReadings (id : StoreId) (index : Int) (moveUnder : Option Int) (factory : ValueFactory)
    (s : ScanState) (readings : List Reading) : ScanState :=
  readings.foldl (scan.storeReading id index moveUnder factory) s

/-- The state after the value of an argument is looked for: what is found is filed, and if nothing
is, it is waited for. -/
def detectValue (id : StoreId) (index : Int) (moveUnder : Option Int) (factoryId : FactoryId)
    (factory : ValueFactory) (s : ScanState) (argument : NodeId) : ScanState :=
  match scan.unit.resolveValue scan.config factory [] argument with
  | [] =>
    (scan.unit.planHooks scan.config factory.isSize [] argument).foldl
      (scan.waitFor
        { requester := id
          root := s.rootOf id
          payload := .value index factoryId factory moveUnder
          registeredAt := s.position })
      s
  | readings => scan.storeReadings id index moveUnder factory s readings

/-! ## Following rules -/

/-- The state after a rule is evaluated at a node. -/
def evaluateAt (evaluate : Evaluator) (trace : Trace) (n : NodeId) (s : ScanState) (id : StoreId) :
    ScanState :=
  match scan.unit.site? n with
  | some site => evaluate s.start id trace site
  | none => s.start

/-- The state after a rule is evaluated at every site of a subtree. -/
def evaluateIn (evaluate : Evaluator) (trace : Trace) (scope : NodeId) (s : ScanState)
    (id : StoreId) : ScanState :=
  (scan.unit.sitesIn scope).foldl (fun s site => evaluate s id trace site) s.start

/-- The state after a rule is followed: it gets a store under the given one, and is run there. -/
def follow (run : ScanState → StoreId → ScanState) (parent : StoreId) (index : Int)
    (hook : Option HookOrigin) (s : ScanState) (rule : RuleId) : ScanState :=
  let (stores, child) := s.stores.createChild parent index rule hook
  run (s.withStores stores).plan child

/-- The state after the next rules of a matched rule are followed through the scope of the site. -/
def followNext (evaluate : Evaluator) (id : StoreId) (rule : Rule) (site : Site) (s : ScanState) :
    ScanState :=
  match scan.nextTrace site with
  | .different => s
  | trace =>
    let scope := scan.unit.enclosingScope site.node
    rule.next.foldl (follow (scan.evaluateIn evaluate trace scope) id methodLevel none) s

/-- The state after depending rules are followed from an argument: at the argument itself if it is a
call, through the scope of the variable if it is one, and at later calls if it is a parameter. -/
def followDepending (evaluate : Evaluator) (requester : StoreId) (index : Int)
    (rules : List RuleId) (origin : Option HookOrigin) (chain : Nat) (s : ScanState)
    (argument : NodeId) : ScanState :=
  let inner := scan.unwrap argument
  match scan.unit.expression inner with
  | .call _ => rules.foldl (follow (scan.evaluateAt evaluate .start inner) requester index origin) s
  | .variable symbol =>
    if symbol.kind = .parameter then
      match scan.unit.parameterPosition? symbol with
      | some (method, position) =>
        if chain < scan.config.maxHookChain then
          scan.waitFor
            { requester
              root := s.rootOf requester
              payload := .follow index rules
              chain
              registeredAt := s.position }
            s (.parameter method position [])
        else s
      | none => s
    else
      let scope := scan.unit.symbolScope symbol
      rules.foldl (follow (scan.evaluateIn evaluate (.on symbol) scope) requester index origin) s
  | _ => s

/-! ## A rule at a site -/

/-- Whether the rule of a store is to take a site: it matches, no store above has the site for the
same rule, the store is not too deep, and the site continues the story. -/
def takes (s : ScanState) (id : StoreId) (store : Store) (rule : Rule) (trace : Trace)
    (site : Site) : Bool :=
  rule.matcher.matches scan.unit site (rule.matchContext scan.config.matchSubtypes) &&
    !s.stores.isClaimedOnPath id store.rule site &&
    decide (store.level < scan.config.maxStoreDepth) &&
    trace.admits (scan.binding site)

/-- The action that a rule makes of a matched site. -/
def actionOf? (rule : Rule) (site : Site) : Option DetectedValue := do
  let factory ← rule.action
  let name ← scan.unit.methodName? site
  factory.create? name (scan.unit.invokedObjectType? site) (scan.unit.tree.location site.node)

/-- The state after one argument of a matched site is read as its parameter asks. -/
def readArgument (evaluate : Evaluator) (id : StoreId) (ruleId : RuleId) (s : ScanState)
    (entry : (Parameter × NodeId) × Nat) : ScanState :=
  let ((parameter, argument), position) := entry
  match parameter.role with
  | .typeOnly => s
  | .detectable factory =>
    scan.detectValue id position parameter.moveUnder ⟨ruleId, position⟩ factory s argument
  | .depending rules => scan.followDepending evaluate id position rules none 0 s argument

/-- The state after the arguments of a matched site are read. -/
def readArguments (evaluate : Evaluator) (id : StoreId) (ruleId : RuleId) (rule : Rule)
    (site : Site) (s : ScanState) : ScanState :=
  ((rule.parameters.zip (scan.unit.arguments site)).zipIdx).foldl
    (scan.readArgument evaluate id ruleId) s

/-- The state after a store is given a site that its rule takes. -/
def takeSite (evaluate : Evaluator) (s : ScanState) (id : StoreId) (ruleId : RuleId) (rule : Rule)
    (site : Site) : ScanState :=
  let (s, target) := s.claim id site
  let s := s.withStores (s.stores.receiveMethod target site (scan.actionOf? rule site))
  let s := scan.followNext evaluate target rule site s
  if rule.isMethodOnly then s else scan.readArguments evaluate target ruleId rule site s

/-- The state after the rule of a store is evaluated at a site, given how to evaluate what is
followed. -/
def evaluateBy (evaluate : Evaluator) : Evaluator := fun s id trace site =>
  match s.stores.store? id with
  | none => s
  | some store =>
    match scan.catalog.rule? store.rule with
    | none => s
    | some rule =>
      if scan.takes s id store rule trace site then
        scan.takeSite evaluate s id store.rule rule site
      else s

/-- The state after the rule of a store is evaluated at a site, following at most `steps` rules in a
row. -/
def evaluateWithin : Nat → Evaluator
  | 0 => fun s _ _ _ => s
  | steps + 1 => scan.evaluateBy (evaluateWithin steps)

/-- The state after the rule of a store is evaluated at a site.  Following goes to earlier rules, so
no more rules are followed in a row than there are. -/
def evaluate : Evaluator := scan.evaluateWithin scan.catalog.size

end Scan

end CryptoUsage
