import CryptoUsage.Scan.Delivery

/-!
# Scanning a unit

A scan meets every node of the tree once, in pre-order.  At a site it first serves the observers
whose hooks fire there, and then tries every root rule.  A root that holds detections is
*emitted*; one that holds none but for which something waits is kept; any other is thrown away
with everything below it.

What is reported when a root is emitted is a snapshot.  Later hooks may still add to the tree, so
the outcome takes the snapshots again at the end.

## What is here

* Emission.  `findingOf` is the snapshot of a root, `emit` reports it unless one that says the
  same was reported, and `emitIfDetected` is the look at a root that follows all work for it.
* `handle` serves one observer: it is looked up again, as it may have left since the event was
  queued, and it leaves if it got something and its hook is for one time.
* `tryRoot` plants a new root, evaluates its rule at a node, and keeps it or throws it away.
* `visit`, `run` and `outcome` are a scan from node to node, as a whole, and what it finds: the
  findings of all emitted roots as they are in the end, each once, and how many observers still
  wait and how many stores there are.
-/

set_option autoImplicit false

namespace CryptoUsage

/-- What a scan found. -/
structure ScanOutcome where
  filePath : String
  /-- The findings, in the order in which their roots were emitted. -/
  findings : List Finding
  /-- The number of observers that still waited. -/
  pendingHooks : Nat
  /-- The number of stores that were kept. -/
  stores : Nat

/-- The outcome in a report. -/
def ScanOutcome.toJson (catalog : Catalog) (outcome : ScanOutcome) : Json :=
  .obj [("file_path", .str outcome.filePath),
    ("findings", .arr (outcome.findings.map (Finding.toJson catalog))),
    ("pending_hooks", .num outcome.pendingHooks), ("stores", .num outcome.stores)]

namespace Scan

variable (scan : Scan)

/-- The finding for a root as it is now. -/
def findingOf (s : ScanState) (root : StoreId) : Finding :=
  Finding.ofStore scan.catalog scan.unit.filePath scan.unit.tree.location s.stores root

/-- The state in which a root is emitted.  Its finding is reported unless one that says the same
was. -/
def emit (s : ScanState) (root : StoreId) : ScanState :=
  if s.emitted.contains root then s
  else
    let finding := scan.findingOf s root
    { s with
      emitted := s.emitted ++ [root]
      reported := if s.reported.any finding.same then s.reported else s.reported ++ [finding] }

/-- The state in which a root is emitted if it holds detections. -/
def emitIfDetected (s : ScanState) (root : StoreId) : ScanState :=
  if s.stores.hasDetections root then scan.emit s root else s

/-- The state after an event is handled: its observer is served, leaves if it got what it waited for
and its hook is for one time, and its root is emitted if it holds detections now. -/
def handle (s : ScanState) (event : HookEvent) : ScanState :=
  match s.hooks.hook? event.hook, s.hooks.observer? event.hook event.observer with
  | some hook, some observer =>
    let (s, satisfied) := scan.deliver hook.kind observer event.trigger s
    let s :=
      if satisfied && hook.kind.isOneShot then
        { s with hooks := s.hooks.removeObserver event.hook event.observer }
      else s
    scan.emitIfDetected s observer.root
  | _, _ => s

/-- The state after a root rule is tried at a node. -/
def tryRoot (n : NodeId) (s : ScanState) (rule : RuleId) : ScanState :=
  let mark := s.stores.size
  let (stores, root) := s.stores.createRoot rule
  let s := scan.evaluateAt scan.evaluate .start n (s.withStores stores).plan root
  if s.stores.hasDetections root then scan.emit s root
  else if s.hooks.hasPendingForRoot root then s
  else { s with stores := s.stores.truncate mark }

/-- The state after a node is met. -/
def visit (s : ScanState) (n : NodeId) : ScanState :=
  let s := { s with position := s.position + 1 }
  match scan.unit.site? n with
  | none => s
  | some site =>
    let served := (s.hooks.observe scan.unit s.position site).foldl scan.handle s
    scan.roots.foldl (scan.tryRoot n) served

/-- The state after the whole unit is scanned. -/
def run : ScanState := (scan.unit.tree.preorder SyntaxTree.root).foldl scan.visit {}

/-- What a scan that ended in the given state found. -/
def outcomeOf (s : ScanState) : ScanOutcome where
  filePath := scan.unit.filePath
  findings := Finding.dedup (s.emitted.map (scan.findingOf s))
  pendingHooks := s.hooks.pending
  stores := s.stores.size

/-- What the scan finds. -/
def outcome : ScanOutcome := scan.outcomeOf scan.run

end Scan
end CryptoUsage
