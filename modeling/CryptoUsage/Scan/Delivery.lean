import CryptoUsage.Scan.Evaluation

/-!
# Delivering what was waited for

When a hook fires at a site, each of its observers is served: a request for values gets the values
of the argument, of what the called method returns, or of the selected constant; a request to
follow rules follows them from the argument.

An argument that has no constant either may itself be a parameter of a further method, and then
the request goes on to that one, as often as the limit on hook chains allows.

## What is here

* `readingsFor?` says what to read for a request for values, by the target of the hook, and from
  which argument to go on if there is nothing.
* `deliverValue` files what was read on behalf of the requester, or passes the request on with one
  hook more (`passOn`), unless it went through as many as are allowed.
* `deliverRules` follows the rules from the argument, with an origin that names the site and the
  store that first asked; the evaluation of rules does the rest, including that of waiting again.
* `deliver` picks one of the two by the payload, and says whether the observer got what it waited
  for.
-/

set_option autoImplicit false

namespace CryptoUsage
namespace Scan

variable (scan : Scan)

/-- The argument of a site at a position. -/
def argument? (site : Site) (position : Nat) : Option NodeId :=
  (scan.unit.arguments site)[position]?

/-- The state in which a request for a value waits further out, for what can supply the argument. -/
def passOn (observer : Observer) (size : Bool) (argument : NodeId) (s : ScanState) : ScanState :=
  let chain := observer.chain + 1
  if scan.config.maxHookChain < chain then s
  else
    (scan.unit.planHooks scan.config size observer.selections argument).foldl
      (scan.waitFor { observer with chain, registeredAt := s.position }) s

/-- What to read for a request for values when its hook fires at a site: the readings, and the
argument from which to go on if there are none. -/
def readingsFor? (kind : HookKind) (factory : ValueFactory) (selections : List String)
    (trigger : Site) : Option (List Reading × Option NodeId) :=
  match kind with
  | .parameter _ _ position =>
    (scan.argument? trigger position).map fun argument =>
      (scan.unit.resolveValue scan.config factory selections argument, some argument)
  | .result method _ =>
    some (scan.unit.resolveReturns scan.config factory selections method trigger, none)
  | .enum _ => some (scan.unit.resolveValue scan.config factory selections trigger.node, none)

/-- The state after a request for values is served at a site, and whether it got any. -/
def deliverValue (kind : HookKind) (observer : Observer) (index : Int) (factory : ValueFactory)
    (moveUnder : Option Int) (trigger : Site) (s : ScanState) : ScanState × Bool :=
  match scan.readingsFor? kind factory observer.selections trigger with
  | none => (s, false)
  | some ([], none) => (s, false)
  | some ([], some argument) => (scan.passOn observer factory.isSize argument s, false)
  | some (readings, _) =>
    (scan.storeReadings observer.requester index moveUnder factory s readings, true)

/-- The state after a request to follow rules is served at a site, and whether there was anything to
follow them from. -/
def deliverRules (kind : HookKind) (observer : Observer) (index : Int) (rules : List RuleId)
    (trigger : Site) (s : ScanState) : ScanState × Bool :=
  match kind with
  | .parameter _ _ position =>
    match scan.argument? trigger position with
    | none => (s, false)
    | some argument =>
      let origin : HookOrigin :=
        { trigger := trigger.node, hookRoot := s.stores.hookRoot observer.requester }
      (scan.followDepending scan.evaluate observer.requester index rules (some origin)
        (observer.chain + 1) s argument, true)
  | _ => (s, false)

/-- The state after an observer is served at a site, and whether it got what it waited for. -/
def deliver (kind : HookKind) (observer : Observer) (trigger : Site) (s : ScanState) :
    ScanState × Bool :=
  match observer.payload with
  | .value index _ factory moveUnder =>
    scan.deliverValue kind observer index factory moveUnder trigger s
  | .follow index rules => scan.deliverRules kind observer index rules trigger s

end Scan
end CryptoUsage
