import CryptoUsage.Detection.Resolution

/-!
# What to wait for

When an expression has no constant within what has been read so far, a later site may supply one:
a call of the method whose parameter it is, a call of a method whose result it is, or the
selection of a constant of the enum it ranges over.  `planHooks` lists what to wait for.

The search has the same shape as the one for constants: it does not enter the nodes of its path
again, and its depth is limited.

## What is here

One definition for each shape of expression, given how to go on from a node, as in the search for
constants.

* `planVariable`: a variable declared to range over an enum of the unit waits for selections of
  its constants; any other parameter waits for calls of its method; and other variables are
  followed to what they get their values from.
* `planInvocation`: a call on something that ranges over an enum waits for the enum, with the
  method recorded as a selection; a call of a method of the unit waits for its result; and
  otherwise the receiver is looked at.
* `planConstruction` and `planShape` for the remaining shapes; an array is of interest only where
  a size is wanted.

There are no frames, as what is planned for is outside of every call that has been read.
`planWithin` ties the knot.
-/

set_option autoImplicit false

namespace CryptoUsage

/-- What to wait for, and the selections to make on what comes. -/
inductive HookPlan where
  /-- A call of the method, for the argument at the position. -/
  | parameter (method : NodeId) (index : Nat) (selections : List String)
  /-- A call of the method, for what it returns. -/
  | result (method : NodeId) (selections : List String)
  /-- The selection of a constant of the enum. -/
  | enum (name : String) (selections : List String)
deriving DecidableEq, Repr

/-- How to find the plans for a node with the given selections. -/
abbrev Planner := List String → NodeId → List HookPlan

namespace CompilationUnit

variable (u : CompilationUnit)

/-- The simple name of the enum of the unit that a variable is declared to range over. -/
def enumTypeOf? (s : Symbol) : Option String := do
  let declared ← u.declaredType? s
  let _ ← u.enumNamed? declared.name
  return declared.simpleName

/-- The plans for a variable. -/
def planVariable (onward : Planner) (selections : List String) (s : Symbol) : List HookPlan :=
  match u.enumTypeOf? s with
  | some name => [.enum name selections]
  | none =>
    match s.kind with
    | .parameter =>
      ((u.parameterPosition? s).map fun (method, index) =>
        HookPlan.parameter method index selections).toList
    | .local | .field => (u.valueSources s).flatMap (onward selections)
    | .enumConstant => []

/-- The enum over which the receiver of a call ranges. -/
def receiverEnum? (receiver : NodeId) : Option String :=
  match u.expression receiver with
  | .variable s => u.enumTypeOf? s
  | _ => none

/-- The plans for an invocation.  A method called on an enum-typed variable waits for the enum; a
method of the unit is waited for; and otherwise the receiver is looked at with the method selected
on it. -/
def planInvocation (config : ScanConfig) (onward : Planner) (selections : List String)
    (site : Site) : List HookPlan :=
  let selection := do
    let receiver ← u.receiver? site
    let name ← u.methodName? site
    return (u.unwrap config receiver, name)
  match selection.bind fun (receiver, name) =>
      (u.receiverEnum? receiver).map fun enumName => (enumName, name) with
  | some (enumName, name) => [.enum enumName (selections ++ [name])]
  | none =>
    match u.methodDefinition? site, selection with
    | some method, _ => [.result method selections]
    | none, some (receiver, name) => onward (selections ++ [name]) receiver
    | none, none => []

/-- The plans for a construction: a wrapper passes its only argument on. -/
def planConstruction (onward : Planner) (selections : List String) (site : Site) :
    List HookPlan :=
  match u.arguments site with
  | [argument] => onward selections argument
  | _ => []

/-- The plans for an expression of the given shape, given how to go on.  `size` says whether the
dimension of an array is of interest. -/
def planShape (config : ScanConfig) (size : Bool) (onward : Planner) (selections : List String) :
    Expression → List HookPlan
  | .wrapped inner => onward selections inner
  | .variable s => u.planVariable onward selections s
  | .member object name => onward (selections ++ [name]) object
  | .call (.invocation c) => u.planInvocation config onward selections (.invocation c)
  | .call (.construction c) => u.planConstruction onward selections (.construction c)
  | .arrayCreation [dimension] 1 _ => if size then onward [] dimension else []
  | _ => []

/-- The plans for a node within the given number of steps, the nodes of the path not entered
again. -/
def planWithin (config : ScanConfig) (size : Bool) : Nat → List NodeId → Planner
  | 0, _ => fun _ _ => []
  | steps + 1, path => fun selections n =>
    if path.contains n then []
    else
      u.planShape config size (planWithin config size steps (n :: path)) selections
        (u.expression n)

/-- What could later supply a value of the expression. -/
def planHooks (config : ScanConfig) (size : Bool) (selections : List String) (n : NodeId) :
    List HookPlan :=
  u.planWithin config size (config.maxResolutionDepth + 1) [] selections n

end CompilationUnit

end CryptoUsage
