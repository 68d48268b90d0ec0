import CryptoUsage.Config.Limits
import CryptoUsage.Hooks.Repository
import CryptoUsage.Store.Finding

/-!
# The state of a scan

A scan is given a unit and a scanner: the rules, which of them are roots, and the limits.  Its
state is what it has made so far: stores, hooks, the findings it has reported, and a record of the
rule evaluations it planned and started.

## What is here

* `Scanner` is what is applied to every unit, and `Scan` a scanner at work on one.
* `ScanState` holds the stores, the hooks, the roots that were emitted, the findings that were
  reported, the number of nodes met so far (`position`), what was told of the progress, and how
  many stores were ever made.  The last two are never taken back.
* `plan` and `start` tell of a rule evaluation; `withStores` takes over an arena in which stores
  were added, and counts those.
* `claim` gives a site to a store.  If a sibling has to be made for it, its evaluation is planned
  and started at once, as for any new store.

The queue of events and the marks of the searches are no part of this state; a handler that has
them as well is defined where it is proved that they change nothing.
-/

set_option autoImplicit false

namespace CryptoUsage

/-- What a scanner applies to every unit. -/
structure Scanner where
  catalog : Catalog
  /-- The rules to try at every site, in order. -/
  roots : List RuleId
  config : ScanConfig := {}

/-- A scanner at work on a unit. -/
structure Scan extends Scanner where
  unit : CompilationUnit

/-- What is told to an observer of the progress. -/
inductive Progress where
  /-- One more rule evaluation is to come. -/
  | planned
  /-- A rule evaluation starts. -/
  | started
deriving DecidableEq, Repr

/-- The state of a scan. -/
structure ScanState where
  stores : Arena := {}
  /-- How many stores were ever made, those counted that were thrown away. -/
  created : Nat := 0
  hooks : HookRepository := {}
  /-- How many nodes have been met. -/
  position : Nat := 0
  /-- What was told of the progress, the latest first. -/
  progress : List Progress := []
  /-- The roots that were found to hold detections, in order. -/
  emitted : List StoreId := []
  /-- The findings that were reported, in order and as they were then. -/
  reported : List Finding := []

namespace ScanState

/-- The state with one more rule evaluation planned. -/
def plan (s : ScanState) : ScanState := { s with progress := .planned :: s.progress }

/-- The state with one more rule evaluation started. -/
def start (s : ScanState) : ScanState := { s with progress := .started :: s.progress }

/-- The state with other stores; more stores than before are new ones. -/
def withStores (s : ScanState) (stores : Arena) : ScanState :=
  { s with stores, created := s.created + (stores.size - s.stores.size) }

/-- The number of rule evaluations that were planned. -/
def planned (s : ScanState) : Nat := s.progress.count .planned

/-- The number of rule evaluations that were started. -/
def started (s : ScanState) : Nat := s.progress.count .started

/-- The root above a store. -/
def rootOf (s : ScanState) (id : StoreId) : StoreId := ((s.stores.store? id).map (·.root)).getD id

/-- The state in which a site is given to a store, or to a sibling made for it, and the store that
has it.  The sibling is evaluated at once. -/
def claim (s : ScanState) (id : StoreId) (site : Site) : ScanState × StoreId :=
  let (stores, target) := s.stores.claim id site
  if target = id then (s.withStores stores, target) else ((s.withStores stores).plan.start, target)

end ScanState

end CryptoUsage
