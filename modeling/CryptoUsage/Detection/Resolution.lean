import CryptoUsage.Config.Limits
import CryptoUsage.FrontEnd.Unit

/-!
# Following values back to constants

`resolveValue` finds the constants that an expression can have, without leaving the unit: through
variables to what they are initialized with and assigned, through calls of methods of the unit to
what those return, through selections to what they are selected on.

The search carries three things along.

* The *path* of nodes it came through.  A node on the path is not entered again, so cyclic
  assignments end.
* The *selections* met so far, outermost first.  They are applied to the constant in the end.
* The *frames*, innermost first: the parameters of each method that was entered through a call, with
  the arguments of that call.  An argument is looked at in the frames outside its own call, so a
  parameter never resolves to the argument of a call that happens further in.

All three are values that a branch hands to its own branches; no branch sees another's.

The depth limit is the recursion's own measure.  What each shape of expression does is stated
separately, given how to go on from a node (`Resolver`), and `resolveWithin` ties the knot.
-/

set_option autoImplicit false

namespace CryptoUsage

/-- A constant, and the node it was read from. -/
structure Reading where
  constant : Constant
  node : NodeId
deriving DecidableEq, Repr

/-- The parameters of a method and the arguments of the call that entered it. -/
abbrev Frame := List (Symbol × NodeId)

/-- The argument bound to a parameter in a frame. -/
def Frame.argument? (frame : Frame) (parameter : Symbol) : Option NodeId :=
  (frame.find? fun (p, _) => p.same parameter).map Prod.snd

/-- How to find the readings of a node in the given frames with the given selections. -/
abbrev Resolver := List Frame → List String → NodeId → List Reading

/-- Whether a selected name is that of a parameter or of its getter, in any case. -/
def isAccessorOf (parameter selection : String) : Bool :=
  Text.agreesIgnoringAsciiCase selection parameter ||
    (Text.dropPrefix? ['g', 'e', 't'] selection.toList).any fun rest =>
      Text.agreesIgnoringAsciiCase (String.ofList rest) parameter

namespace CompilationUnit

variable (u : CompilationUnit)

/-- What is inside the first `steps` wrappers of an expression. -/
def unwrapWithin : Nat → NodeId → NodeId
  | 0, n => n
  | steps + 1, n =>
    match u.expression n with
    | .wrapped inner => unwrapWithin steps inner
    | _ => n

/-- What is inside the parentheses and casts around an expression. -/
def unwrap (config : ScanConfig) (n : NodeId) : NodeId :=
  u.unwrapWithin config.maxResolutionDepth n

/-- The frame in which a method runs when a site calls it. -/
def frameOf (method : NodeId) (site : Site) : Frame :=
  (u.methodParameters method).zip (u.arguments site)

/-- The expressions a variable gets its values from, the initializer first. -/
def valueSources (s : Symbol) : List NodeId := (u.initializer? s).toList ++ u.assignments s

/-- The reading of a constant at a node with the given selections, if it can be what the factory
expects. -/
def readingOf (factory : ValueFactory) (selections : List String) (c : Constant) (n : NodeId) :
    List Reading :=
  (((c.selectAll? selections).bind fun value => value.cast? factory.expected).map
    fun constant => ⟨constant, n⟩).toList

/-- The readings of a variable: those of the argument if it is a parameter of the innermost frame,
and otherwise those of everything it gets its values from. -/
def resolveVariable (onward : Resolver) (frames : List Frame) (selections : List String)
    (s : Symbol) : List Reading :=
  match frames with
  | frame :: outer =>
    match frame.argument? s with
    | some argument => onward outer selections argument
    | none => bySources
  | [] => bySources
where
  /-- The readings of everything the variable gets its values from; a parameter gets none. -/
  bySources : List Reading :=
    if s.kind = .parameter then []
    else (u.valueSources s).flatMap (onward frames selections)

/-- The argument of an enum constant for the constructor parameter that a selection accesses. -/
def enumArgument? (declaration constant : NodeId) (selection : String) : Option NodeId := do
  let arguments := u.enumConstantArguments constant
  let fitting := (u.enumConstructorParameters declaration).filter fun parameters =>
    parameters.length == arguments.length
  let position ← fitting.findSome? fun parameters =>
    parameters.findIdx? fun parameter => isAccessorOf parameter selection
  arguments[position]?

/-- The readings of an enum constant: its name if nothing is selected or if the name is, and
otherwise those of the constructor argument that the last selection accesses. -/
def resolveEnumConstant (factory : ValueFactory) (onward : Resolver) (frames : List Frame)
    (selections : List String) (declaration constant : NodeId) : List Reading :=
  let name := Constant.str (u.constantName constant)
  match selections.getLast? with
  | none => readingOf factory [] name constant
  | some selection =>
    if selection = "name" ∨ selection = "toString" then
      readingOf factory selections.dropLast name constant
    else
      match u.enumArgument? declaration constant selection with
      | some argument => onward frames selections.dropLast argument
      | none => []

/-- Whether a site calls a method on an enum constant. -/
def isOnEnumConstant (config : ScanConfig) (site : Site) : Bool :=
  (u.receiver? site).any fun receiver =>
    match u.expression (u.unwrap config receiver) with
    | .enumConstant _ _ => true
    | _ => false

/-- The readings of what the method of the unit that a site invokes returns. -/
def resolveReturned (config : ScanConfig) (onward : Resolver) (frames : List Frame)
    (selections : List String) (site : Site) : List Reading :=
  if u.isOnEnumConstant config site then []
  else
    match u.methodDefinition? site with
    | some method =>
      (u.methodReturns method).flatMap (onward (u.frameOf method site :: frames) selections)
    | none => []

/-- The readings of an invocation: those of what the method returns, and if there are none, those of
the receiver with the method selected on it. -/
def resolveInvocation (config : ScanConfig) (onward : Resolver) (frames : List Frame)
    (selections : List String) (site : Site) : List Reading :=
  match u.resolveReturned config onward frames selections site with
  | [] =>
    match u.receiver? site, u.methodName? site with
    | some receiver, some name => onward frames (selections ++ [name]) receiver
    | _, _ => []
  | readings => readings

/-- The readings of a construction: a wrapper such as `new String(x)` passes its only argument
on. -/
def resolveConstruction (onward : Resolver) (frames : List Frame) (selections : List String)
    (site : Site) : List Reading :=
  match u.arguments site with
  | [argument] => onward frames selections argument
  | _ => []

/-- The readings of an array creation where a size is wanted: those of its only dimension, or the
number of the elements written out. -/
def resolveArray (factory : ValueFactory) (onward : Resolver) (frames : List Frame) (n : NodeId)
    (dimensions : List NodeId) (rank : Nat) (elements : Option Nat) : List Reading :=
  if !factory.isSize then []
  else
    match dimensions, elements with
    | [dimension], _ => if rank = 1 then onward frames [] dimension else []
    | [], some count => readingOf factory [] (.int (Int64.ofNat count)) n
    | _, _ => []

/-- The readings of an expression of the given shape, given how to go on. -/
def resolveShape (config : ScanConfig) (factory : ValueFactory) (onward : Resolver)
    (frames : List Frame) (selections : List String) (n : NodeId) : Expression → List Reading
  | .literal c => readingOf factory selections c n
  | .wrapped inner => onward frames selections inner
  | .variable s => u.resolveVariable onward frames selections s
  | .member object name => onward frames (selections ++ [name]) object
  | .enumConstant declaration constant =>
    u.resolveEnumConstant factory onward frames selections declaration constant
  | .call (.construction c) => u.resolveConstruction onward frames selections (.construction c)
  | .call (.invocation c) => u.resolveInvocation config onward frames selections (.invocation c)
  | .call (.enumSelection _) => []
  | .arrayCreation dimensions rank elements =>
    resolveArray factory onward frames n dimensions rank elements
  | .unknown => []

/-- The readings of a node within the given number of steps, the nodes of the path not entered
again. -/
def resolveWithin (config : ScanConfig) (factory : ValueFactory) :
    Nat → List NodeId → Resolver
  | 0, _ => fun _ _ _ => []
  | steps + 1, path => fun frames selections n =>
    if path.contains n then []
    else
      u.resolveShape config factory (resolveWithin config factory steps (n :: path)) frames
        selections n (u.expression n)

/-- The constants that an expression can have with the given selections, as the factory expects
them. -/
def resolveValue (config : ScanConfig) (factory : ValueFactory) (selections : List String)
    (n : NodeId) : List Reading :=
  u.resolveWithin config factory (config.maxResolutionDepth + 1) [] [] selections n

/-- The constants that a method can return when a site calls it. -/
def resolveReturns (config : ScanConfig) (factory : ValueFactory) (selections : List String)
    (method : NodeId) (site : Site) : List Reading :=
  (u.methodReturns method).flatMap
    (u.resolveWithin config factory (config.maxResolutionDepth + 1) [] [u.frameOf method site]
      selections)

end CompilationUnit

end CryptoUsage
