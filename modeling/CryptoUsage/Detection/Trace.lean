import CryptoUsage.Program.Shape

/-!
# Following one object

A rule that follows another one is meant for the same object: after `c = Cipher.getInstance(…)` it
is `c.init(…)` that counts and not `d.init(…)`.  A *trace* says which sites continue the story of
a match.

## What is here

* `Trace` has the four possibilities: any site may continue the story; only sites that act on a
  certain variable may; only those whose result no variable takes, because the object has no name;
  or none, since the result was handed to another call.
* `Binding` is what is known of how a site relates to variables: the variable it acts on or else
  the one that takes its result, the latter by itself, and whether it acts on the result of a
  call.  A site is compared with a trace by its binding (`Trace.admits`), and symbols are compared
  by what declares them.

Which binding a site has and which trace the rules that come next are followed with depends on the
unit; this is a part of the evaluation of rules.
-/

set_option autoImplicit false

namespace CryptoUsage

/-- Which sites continue the story of a match. -/
inductive Trace where
  /-- Every site; the trace starts here. -/
  | start
  /-- None; the object has gone elsewhere. -/
  | different
  /-- Sites whose result no variable takes; the object has no name. -/
  | unnamed
  /-- Sites that act on the variable. -/
  | on (symbol : Symbol)
deriving DecidableEq, Repr

/-- How a site relates to variables. -/
structure Binding where
  /-- The variable it acts on, or else the one that takes its result. -/
  bound : Option Symbol
  /-- The variable that takes its result. -/
  assigned : Option Symbol
  /-- Whether it acts on the result of a call. -/
  chained : Bool
deriving DecidableEq, Repr

namespace Trace

/-- The variable a trace follows. -/
def symbol? : Trace → Option Symbol
  | on symbol => some symbol
  | _ => none

/-- Whether a site with the given binding continues the story. -/
def admits (trace : Trace) (binding : Binding) : Bool :=
  match trace with
  | start => true
  | different => false
  | unnamed => binding.assigned.isNone || binding.chained
  | on symbol => binding.bound.any fun s => s.same symbol

end Trace

end CryptoUsage
