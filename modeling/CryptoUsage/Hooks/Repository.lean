import CryptoUsage.Detection.Matching
import CryptoUsage.Store.Arena

/-!
# Hooks

A *hook* stands for something that may happen at a later site: a call of a method, for the sake of
an argument or of what it returns, or the selection of an enum constant.  *Observers* wait on a
hook, each on behalf of a store, with a payload that says what to do when the hook fires.

There is one hook for each target, and one observer on it for each request; asking for the same
thing twice changes nothing.

## What is here

* `HookKind` has the three targets.  When they are the same (`sameTarget`), whether observers
  leave once they got what they waited for (`isOneShot`), and at which sites a hook fires
  (`fires`).
* `Observer` is a request: the store on behalf of which it was made, the root of its tree, the
  payload, the selections to make on what comes, through how many hooks it went before, and the
  position at which it was registered.  Two requests are the same if they come from the same store
  with the same selections and ask for the same (`sameRequest`).
* `HookRepository` has the hooks in the order in which they were first asked for, and the number
  that the next observer gets.  `register` adds an observer unless the same request waits,
  `removeObserver` takes one away, and `observe` lists those who are to be told of a site: the
  observers, registered at earlier positions, of the hooks that fire there.
-/

set_option autoImplicit false

namespace CryptoUsage

/-- What has to happen for a hook to fire. -/
inductive HookKind where
  /-- A call of the method; the argument at the position is of interest. -/
  | parameter (method : NodeId) (matcher : MethodMatcher) (index : Nat)
  /-- A call of the method; what it returns is of interest. -/
  | result (method : NodeId) (matcher : MethodMatcher)
  /-- The selection of a constant of the enum. -/
  | enum (name : String)
deriving DecidableEq, Repr

namespace HookKind

/-- Whether two hooks wait for the same. -/
def sameTarget : HookKind → HookKind → Bool
  | parameter method _ index, parameter method' _ index' => method == method' && index == index'
  | result method _, result method' _ => method == method'
  | enum name, enum name' => name == name'
  | _, _ => false

/-- Whether observers leave once they got what they waited for.  Those of a parameter stay: every
call has an argument of its own. -/
def isOneShot : HookKind → Bool
  | parameter .. => false
  | _ => true

/-- The name of a hook kind in reports. -/
def label : HookKind → String
  | parameter .. => "parameter"
  | result .. => "return"
  | enum .. => "enum"

/-- Whether the hook fires at a site of the unit. -/
def fires (u : CompilationUnit) (site : Site) : HookKind → Bool
  | parameter _ matcher _ | result _ matcher => matcher.matches u site MatchContext.forHook
  | enum name => selectsEnum u name site

end HookKind

/-- Where a value factory is written down: at a parameter of a rule.  Factories at different places
are different even if they are equal. -/
structure FactoryId where
  rule : RuleId
  parameter : Nat
deriving DecidableEq, Repr

/-- What to do when a hook fires. -/
inductive HookPayload where
  /-- File the values that the factory makes of what was waited for. -/
  | value (index : Int) (id : FactoryId) (factory : ValueFactory) (moveUnder : Option Int)
  /-- Follow the rules from the argument. -/
  | follow (index : Int) (rules : List RuleId)

/-- Whether two payloads ask for the same; where values are moved to does not count. -/
def HookPayload.sameAs : HookPayload → HookPayload → Bool
  | value index id _ _, value index' id' _ _ => index == index' && id == id'
  | follow index rules, follow index' rules' => index == index' && rules == rules'
  | _, _ => false

/-- The number of an observer, in the order of registration. -/
abbrev ObserverId := Nat

/-- A request that waits on a hook. -/
structure Observer where
  /-- The store on whose behalf it waits. -/
  requester : StoreId
  /-- The root above that store. -/
  root : StoreId
  payload : HookPayload
  /-- The selections to make on what comes, outermost first. -/
  selections : List String := []
  /-- How many hooks the request went through before. -/
  chain : Nat := 0
  /-- The position of the traversal when it was registered; only later sites count. -/
  registeredAt : Nat

/-- Whether two observers of one hook ask for the same. -/
def Observer.sameRequest (a b : Observer) : Bool :=
  a.requester == b.requester && a.selections == b.selections && a.payload.sameAs b.payload

/-- A hook, and the observers that wait on it with their numbers. -/
structure Hook where
  kind : HookKind
  observers : List (ObserverId × Observer) := []

/-- The hooks of a scan. -/
structure HookRepository where
  hooks : List Hook := []
  /-- The number of the next observer. -/
  nextObserver : ObserverId := 0

/-- An observer that is to be told of a site. -/
structure HookEvent where
  /-- The place of the hook in the repository. -/
  hook : Nat
  observer : ObserverId
  trigger : Site
deriving DecidableEq, Repr

namespace HookRepository

variable (repository : HookRepository)

/-- The hook at a place. -/
def hook? (index : Nat) : Option Hook := repository.hooks[index]?

/-- The place of the hook for a target. -/
def placeOf? (kind : HookKind) : Option Nat :=
  repository.hooks.findIdx? fun hook => hook.kind.sameTarget kind

/-- The repository with an observer waiting, and the number it got; unchanged and without a number
if the same request is waiting there already. -/
def register (kind : HookKind) (observer : Observer) : HookRepository × Option ObserverId :=
  let entry := (repository.nextObserver, observer)
  match repository.placeOf? kind with
  | none =>
    ({ hooks := repository.hooks ++ [{ kind, observers := [entry] }]
       nextObserver := repository.nextObserver + 1 }, some repository.nextObserver)
  | some place =>
    if (repository.hook? place).any fun hook => hook.observers.any fun o => o.2.sameRequest observer
    then (repository, none)
    else
      ({ hooks := repository.hooks.modify place fun hook =>
           { hook with observers := hook.observers ++ [entry] }
         nextObserver := repository.nextObserver + 1 }, some repository.nextObserver)

/-- The observer with a number on the hook at a place. -/
def observer? (hook : Nat) (id : ObserverId) : Option Observer :=
  (repository.hook? hook).bind fun hook => hook.observers.lookup id

/-- The repository without the observer. -/
def removeObserver (hook : Nat) (id : ObserverId) : HookRepository :=
  { repository with
    hooks := repository.hooks.modify hook fun hook =>
      { hook with observers := hook.observers.filter fun o => o.1 != id } }

/-- Everything that waits. -/
def observers : List Observer := repository.hooks.flatMap fun hook => hook.observers.map Prod.snd

/-- Whether anything waits on behalf of a root. -/
def hasPendingForRoot (root : StoreId) : Bool := repository.observers.any fun o => o.root == root

/-- The number of observers that wait. -/
def pending : Nat := repository.observers.length

/-- The events for a hook that fires at a site: one for each observer registered before the
position. -/
def eventsOf (position : Nat) (trigger : Site) (place : Nat) (hook : Hook) : List HookEvent :=
  (hook.observers.filter fun o => o.2.registeredAt < position).map fun o =>
    { hook := place, observer := o.1, trigger }

/-- The observers to be told of a site that the traversal meets at a position. -/
def observe (u : CompilationUnit) (position : Nat) (site : Site) : List HookEvent :=
  repository.hooks.zipIdx.flatMap fun (hook, place) =>
    if !hook.observers.isEmpty && hook.kind.fires u site then eventsOf position site place hook
    else []

end HookRepository

end CryptoUsage
