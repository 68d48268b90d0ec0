import CryptoUsage.Scan.Run

/-!
# Reports over several units

One scanner serves many units, and what it says of each is added up in a report.  How much of it
people see is their choice of `Verbosity`.

## What is here

* `Report` collects what a reporter is told: the findings in the order in which they were
  reported, and how many rule evaluations were planned and started.  `Report.add` adds the scan of
  one more unit; nothing is compared between units, so a finding of one unit never hides that of
  another.
* `Verbosity` is how much is told, in order, from a silent run to one that tells everything.
  `Verbosity.ofFlags` is the choice made on a command line: every request to say more goes one
  step further up to the last, and a request for silence outweighs them all.

What is written to a log is not a part of a report.
-/

set_option autoImplicit false

namespace CryptoUsage

/-- What was said of the units scanned so far. -/
structure Report where
  /-- The rule evaluations that were started. -/
  started : Nat := 0
  /-- The rule evaluations that were planned. -/
  planned : Nat := 0
  /-- The findings, in the order and in the form in which they were reported. -/
  findings : List Finding := []

/-- The report with one more scan added. -/
def Report.add (report : Report) (s : ScanState) : Report where
  started := report.started + s.started
  planned := report.planned + s.planned
  findings := report.findings ++ s.reported

/-- How much is told, from least to most. -/
inductive Verbosity where
  | quiet
  | normal
  | verbose
  | debug
  | trace
deriving DecidableEq, Repr, Ord

namespace Verbosity

/-- The verbosity for a number of requests to say more; a request for silence outweighs them. -/
def ofFlags (requests : Nat) (silent : Bool) : Verbosity :=
  if silent then quiet
  else
    match requests with
    | 0 => normal
    | 1 => verbose
    | 2 => debug
    | _ => trace

end Verbosity

end CryptoUsage
