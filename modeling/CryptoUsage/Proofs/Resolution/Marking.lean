import CryptoUsage.Detection.Plan
import Mathlib.Data.Finset.Basic

/-!
# Marks instead of paths

The searches for values and for what to wait for carry the path of nodes they came through, and do
not enter these again.  They can as well share one set of marks: a node is marked when it is
entered, and unmarked when everything that is reached from it was looked at.  `Marked` has the
searches in that form.

The two forms agree, and a search leaves the marks as it found them, whatever branches it takes
(`resolveWithin_yields`, `planWithin_yields`).  So searches that follow one another cannot get
into each other's way.

## How it goes

* Computations that leave the marks alone.  `Yields` says of a computation that from given marks
  it has a result and leaves the marks as they were.  That goes through sequences (`Yields.bind`),
  through what is collected from a list (`yields_collect`) and through walks (`yields_foldlM`).
  Entering a node marks it for as long as the computation goes on inside (`yields_entering`), or
  blocks it if it is marked (`yields_entering_of_mem`).
* Values.  Each case of the search is written again with marks, in the same order and under the
  same name, and agrees with the case without them if going on does (`Resolver.Agrees`).  The
  induction on the number of steps then takes the nodes of the path for the marks.
* What to wait for.  The same for plans.

The set of marks is a `Finset`, so that entering a node and leaving it undo each other exactly.
-/

set_option autoImplicit false

namespace CryptoUsage

/-- The nodes that are marked. -/
abbrev Marks := Finset NodeId

/-- A computation that reads and changes the marks. -/
abbrev Marking (α : Type) := StateM Marks α

namespace Marked

variable {α β : Type} {marks : Marks}

/-! ## Computations that leave the marks alone -/

/-- From the given marks a computation has a result, and the marks are the same afterwards. -/
def Yields (marks : Marks) (x : Marking α) (a : α) : Prop := x.run marks = (a, marks)

theorem yields_pure (a : α) : Yields marks (pure a) a := rfl

theorem Yields.bind {x : Marking α} {f : α → Marking β} {a : α} {b : β} (hx : Yields marks x a)
    (hf : Yields marks (f a) b) : Yields marks (x >>= f) b := by
  rw [Yields, StateT.run_bind, hx]
  exact hf

/-- What is collected from the items of a list, in order. -/
def collect (f : α → Marking (List β)) : List α → Marking (List β)
  | [] => pure []
  | a :: l => do
    let first ← f a
    let rest ← collect f l
    return first ++ rest

theorem yields_collect {f : α → Marking (List β)} {g : α → List β}
    (h : ∀ a, Yields marks (f a) (g a)) (l : List α) :
    Yields marks (collect f l) (l.flatMap g) := by
  induction l with
  | nil => exact yields_pure []
  | cons a l ih => exact (h a).bind (ih.bind (yields_pure _))

theorem yields_foldlM {σ : Type} {f : σ → α → Marking σ} {g : σ → α → σ}
    (h : ∀ s a, Yields marks (f s a) (g s a)) (s : σ) (l : List α) :
    Yields marks (l.foldlM f s) (l.foldl g s) := by
  induction l generalizing s with
  | nil => exact yields_pure s
  | cons a l ih =>
    rw [List.foldlM_cons, List.foldl_cons]
    exact (h s a).bind (ih _)

/-- Enter a node: it is marked for as long as the computation goes on.  A marked node is not
entered. -/
def entering (n : NodeId) (blocked : α) (x : Marking α) : Marking α := do
  if n ∈ (← get) then
    return blocked
  modify (insert n)
  let a ← x
  modify (·.erase n)
  return a

theorem yields_entering_of_mem {n : NodeId} (h : n ∈ marks) (blocked : α) (x : Marking α) :
    Yields marks (entering n blocked x) blocked := by
  simp only [Yields, entering, StateT.run_bind, StateT.run_get, pure_bind, if_pos h]
  rfl

theorem yields_entering {n : NodeId} {x : Marking α} {a : α} (h : n ∉ marks) (blocked : α)
    (hx : Yields (insert n marks) x a) : Yields marks (entering n blocked x) a := by
  have hrestored : (insert n marks).erase n = marks := Finset.erase_insert h
  have hrun : (entering n blocked x).run marks = (do
      let (a, after) ← x.run (insert n marks)
      pure (a, after.erase n)) := by
    simp only [entering, StateT.run_bind, StateT.run_get, pure_bind, if_neg h]
    rfl
  rw [Yields, hrun, hx]
  exact congrArg (Prod.mk a) hrestored

/-! ## Values -/

/-- How to find the readings of a node with marks. -/
abbrev Resolver := List Frame → List String → NodeId → Marking (List Reading)

variable (u : CompilationUnit)

/-- The readings of a variable. -/
def resolveVariable (onward : Resolver) (frames : List Frame) (selections : List String)
    (s : Symbol) : Marking (List Reading) :=
  match frames with
  | frame :: outer =>
    match frame.argument? s with
    | some argument => onward outer selections argument
    | none => bySources
  | [] => bySources
where
  /-- The readings of everything the variable gets its values from. -/
  bySources : Marking (List Reading) :=
    if s.kind = .parameter then pure []
    else collect (onward frames selections) (u.valueSources s)

/-- The readings of an enum constant. -/
def resolveEnumConstant (factory : ValueFactory) (onward : Resolver) (frames : List Frame)
    (selections : List String) (declaration constant : NodeId) : Marking (List Reading) :=
  let name := Constant.str (u.constantName constant)
  match selections.getLast? with
  | none => pure (CompilationUnit.readingOf factory [] name constant)
  | some selection =>
    if selection = "name" ∨ selection = "toString" then
      pure (CompilationUnit.readingOf factory selections.dropLast name constant)
    else
      match u.enumArgument? declaration constant selection with
      | some argument => onward frames selections.dropLast argument
      | none => pure []

/-- The readings of what the method of the unit that a site invokes returns. -/
def resolveReturned (config : ScanConfig) (onward : Resolver) (frames : List Frame)
    (selections : List String) (site : Site) : Marking (List Reading) :=
  if u.isOnEnumConstant config site then pure []
  else
    match u.methodDefinition? site with
    | some method =>
      collect (onward (u.frameOf method site :: frames) selections) (u.methodReturns method)
    | none => pure []

/-- The readings of an invocation. -/
def resolveInvocation (config : ScanConfig) (onward : Resolver) (frames : List Frame)
    (selections : List String) (site : Site) : Marking (List Reading) := do
  match ← resolveReturned u config onward frames selections site with
  | [] =>
    match u.receiver? site, u.methodName? site with
    | some receiver, some name => onward frames (selections ++ [name]) receiver
    | _, _ => return []
  | readings => return readings

/-- The readings of a construction. -/
def resolveConstruction (onward : Resolver) (frames : List Frame) (selections : List String)
    (site : Site) : Marking (List Reading) :=
  match u.arguments site with
  | [argument] => onward frames selections argument
  | _ => pure []

/-- The readings of an array creation. -/
def resolveArray (factory : ValueFactory) (onward : Resolver) (frames : List Frame) (n : NodeId)
    (dimensions : List NodeId) (rank : Nat) (elements : Option Nat) : Marking (List Reading) :=
  if !factory.isSize then pure []
  else
    match dimensions, elements with
    | [dimension], _ => if rank = 1 then onward frames [] dimension else pure []
    | [], some count => pure (CompilationUnit.readingOf factory [] (.int (Int64.ofNat count)) n)
    | _, _ => pure []

/-- The readings of an expression of the given shape. -/
def resolveShape (config : ScanConfig) (factory : ValueFactory) (onward : Resolver)
    (frames : List Frame) (selections : List String) (n : NodeId) :
    Expression → Marking (List Reading)
  | .literal c => pure (CompilationUnit.readingOf factory selections c n)
  | .wrapped inner => onward frames selections inner
  | .variable s => resolveVariable u onward frames selections s
  | .member object name => onward frames (selections ++ [name]) object
  | .enumConstant declaration constant =>
    resolveEnumConstant u factory onward frames selections declaration constant
  | .call (.construction c) => resolveConstruction u onward frames selections (.construction c)
  | .call (.invocation c) => resolveInvocation u config onward frames selections (.invocation c)
  | .call (.enumSelection _) => pure []
  | .arrayCreation dimensions rank elements =>
    resolveArray factory onward frames n dimensions rank elements
  | .unknown => pure []

/-- The readings of a node within the given number of steps, marked nodes not entered. -/
def resolveWithin (config : ScanConfig) (factory : ValueFactory) : Nat → Resolver
  | 0 => fun _ _ _ => pure []
  | steps + 1 => fun frames selections n =>
    entering n [] (resolveShape u config factory (resolveWithin config factory steps) frames
      selections n (u.expression n))

/-- The constants that an expression can have. -/
def resolveValue (config : ScanConfig) (factory : ValueFactory) (selections : List String)
    (n : NodeId) : Marking (List Reading) :=
  resolveWithin u config factory (config.maxResolutionDepth + 1) [] selections n

/-- The constants that a method can return when a site calls it. -/
def resolveReturns (config : ScanConfig) (factory : ValueFactory) (selections : List String)
    (method : NodeId) (site : Site) : Marking (List Reading) :=
  collect (resolveWithin u config factory (config.maxResolutionDepth + 1) [u.frameOf method site]
    selections) (u.methodReturns method)

variable {u}

/-- A search with marks finds what a search without them finds. -/
def Resolver.Agrees (marks : Marks) (onward : Resolver) (plain : CryptoUsage.Resolver) : Prop :=
  ∀ frames selections n, Yields marks (onward frames selections n) (plain frames selections n)

section Shapes

variable {onward : Resolver} {plain : CryptoUsage.Resolver} {frames : List Frame}
  {selections : List String}

theorem resolveVariable_yields (h : onward.Agrees marks plain) (s : Symbol) :
    Yields marks (resolveVariable u onward frames selections s)
      (u.resolveVariable plain frames selections s) := by
  have hsources : Yields marks (resolveVariable.bySources u onward frames selections s)
      (CompilationUnit.resolveVariable.bySources u plain frames selections s) := by
    rw [resolveVariable.bySources, CompilationUnit.resolveVariable.bySources]
    split
    · exact yields_pure []
    · exact yields_collect (fun source => h frames selections source) _
  cases frames with
  | nil => exact hsources
  | cons frame outer =>
    simp only [resolveVariable, CompilationUnit.resolveVariable]
    cases frame.argument? s with
    | some argument => exact h ..
    | none => exact hsources

theorem resolveEnumConstant_yields (h : onward.Agrees marks plain) (factory : ValueFactory)
    (declaration constant : NodeId) :
    Yields marks (resolveEnumConstant u factory onward frames selections declaration constant)
      (u.resolveEnumConstant factory plain frames selections declaration constant) := by
  simp only [resolveEnumConstant, CompilationUnit.resolveEnumConstant]
  cases selections.getLast? with
  | none => exact yields_pure _
  | some selection =>
    simp only
    split
    · exact yields_pure _
    · cases u.enumArgument? declaration constant selection with
      | some argument => exact h ..
      | none => exact yields_pure []

theorem resolveReturned_yields (h : onward.Agrees marks plain) (config : ScanConfig)
    (site : Site) :
    Yields marks (resolveReturned u config onward frames selections site)
      (u.resolveReturned config plain frames selections site) := by
  simp only [resolveReturned, CompilationUnit.resolveReturned]
  split
  · exact yields_pure []
  · cases u.methodDefinition? site with
    | some method => exact yields_collect (fun returned => h _ selections returned) _
    | none => exact yields_pure []

theorem resolveInvocation_yields (h : onward.Agrees marks plain) (config : ScanConfig)
    (site : Site) :
    Yields marks (resolveInvocation u config onward frames selections site)
      (u.resolveInvocation config plain frames selections site) := by
  refine (resolveReturned_yields h config site).bind ?_
  rw [CompilationUnit.resolveInvocation]
  cases u.resolveReturned config plain frames selections site with
  | cons reading readings => exact yields_pure _
  | nil =>
    simp only
    cases u.receiver? site with
    | none => exact yields_pure []
    | some receiver =>
      cases u.methodName? site with
      | none => exact yields_pure []
      | some name => exact h ..

theorem resolveConstruction_yields (h : onward.Agrees marks plain) (site : Site) :
    Yields marks (resolveConstruction u onward frames selections site)
      (u.resolveConstruction plain frames selections site) := by
  rw [resolveConstruction, CompilationUnit.resolveConstruction]
  rcases u.arguments site with _ | ⟨argument, _ | _⟩
  · exact yields_pure []
  · exact h ..
  · exact yields_pure []

theorem resolveArray_yields (h : onward.Agrees marks plain) (factory : ValueFactory) (n : NodeId)
    (dimensions : List NodeId) (rank : Nat) (elements : Option Nat) :
    Yields marks (resolveArray factory onward frames n dimensions rank elements)
      (CompilationUnit.resolveArray factory plain frames n dimensions rank elements) := by
  unfold resolveArray CompilationUnit.resolveArray
  split
  · exact yields_pure []
  · rcases dimensions with _ | ⟨dimension, _ | _⟩
    · cases elements <;> exact yields_pure _
    · simp only
      split
      · exact h ..
      · exact yields_pure []
    · exact yields_pure []

theorem resolveShape_yields (h : onward.Agrees marks plain) (config : ScanConfig)
    (factory : ValueFactory) (n : NodeId) (e : Expression) :
    Yields marks (resolveShape u config factory onward frames selections n e)
      (u.resolveShape config factory plain frames selections n e) := by
  cases e with
  | literal c => exact yields_pure _
  | wrapped inner => exact h ..
  | «variable» s => exact resolveVariable_yields h s
  | member object name => exact h ..
  | enumConstant declaration constant => exact resolveEnumConstant_yields h factory _ _
  | call site =>
    cases site with
    | invocation c => exact resolveInvocation_yields h config _
    | construction c => exact resolveConstruction_yields h _
    | enumSelection c => exact yields_pure []
  | arrayCreation dimensions rank elements => exact resolveArray_yields h factory n _ _ _
  | unknown => exact yields_pure []

end Shapes

/-- **A search that marks the nodes of its path finds the same values, and leaves the marks as they
were.** -/
theorem resolveWithin_yields (u : CompilationUnit) (config : ScanConfig) (factory : ValueFactory)
    (steps : Nat) (path : List NodeId) :
    (resolveWithin u config factory steps).Agrees path.toFinset
      (u.resolveWithin config factory steps path) := by
  induction steps generalizing path with
  | zero => exact fun _ _ _ => yields_pure []
  | succ steps ih =>
    intro frames selections n
    simp only [resolveWithin, CompilationUnit.resolveWithin]
    by_cases hn : n ∈ path
    · rw [if_pos (List.contains_iff_mem.mpr hn)]
      exact yields_entering_of_mem (List.mem_toFinset.mpr hn) ..
    · rw [if_neg (hn ∘ List.contains_iff_mem.mp)]
      refine yields_entering (hn ∘ List.mem_toFinset.mp) [] ?_
      rw [← List.toFinset_cons]
      exact resolveShape_yields (ih (n :: path)) ..

theorem resolveValue_yields (u : CompilationUnit) (config : ScanConfig) (factory : ValueFactory)
    (selections : List String) (n : NodeId) :
    Yields ∅ (resolveValue u config factory selections n)
      (u.resolveValue config factory selections n) :=
  resolveWithin_yields u config factory _ [] ..

theorem resolveReturns_yields (u : CompilationUnit) (config : ScanConfig) (factory : ValueFactory)
    (selections : List String) (method : NodeId) (site : Site) :
    Yields ∅ (resolveReturns u config factory selections method site)
      (u.resolveReturns config factory selections method site) :=
  yields_collect
    (fun returned => resolveWithin_yields u config factory _ [] _ selections returned) _

/-! ## What to wait for -/

/-- How to find the plans for a node with marks. -/
abbrev Planner := List String → NodeId → Marking (List HookPlan)

variable (u)

/-- The plans for a variable. -/
def planVariable (onward : Planner) (selections : List String) (s : Symbol) :
    Marking (List HookPlan) :=
  match u.enumTypeOf? s with
  | some name => pure [.enum name selections]
  | none =>
    match s.kind with
    | .parameter =>
      pure ((u.parameterPosition? s).map fun (method, index) =>
        HookPlan.parameter method index selections).toList
    | .local | .field => collect (onward selections) (u.valueSources s)
    | .enumConstant => pure []

/-- The plans for an invocation. -/
def planInvocation (config : ScanConfig) (onward : Planner) (selections : List String)
    (site : Site) : Marking (List HookPlan) :=
  let selection := do
    let receiver ← u.receiver? site
    let name ← u.methodName? site
    return (u.unwrap config receiver, name)
  match selection.bind fun (receiver, name) =>
      (u.receiverEnum? receiver).map fun enumName => (enumName, name) with
  | some (enumName, name) => pure [.enum enumName (selections ++ [name])]
  | none =>
    match u.methodDefinition? site, selection with
    | some method, _ => pure [.result method selections]
    | none, some (receiver, name) => onward (selections ++ [name]) receiver
    | none, none => pure []

/-- The plans for a construction. -/
def planConstruction (onward : Planner) (selections : List String) (site : Site) :
    Marking (List HookPlan) :=
  match u.arguments site with
  | [argument] => onward selections argument
  | _ => pure []

/-- The plans for an expression of the given shape. -/
def planShape (config : ScanConfig) (size : Bool) (onward : Planner) (selections : List String) :
    Expression → Marking (List HookPlan)
  | .wrapped inner => onward selections inner
  | .variable s => planVariable u onward selections s
  | .member object name => onward (selections ++ [name]) object
  | .call (.invocation c) => planInvocation u config onward selections (.invocation c)
  | .call (.construction c) => planConstruction u onward selections (.construction c)
  | .arrayCreation [dimension] 1 _ => if size then onward [] dimension else pure []
  | _ => pure []

/-- The plans for a node within the given number of steps, marked nodes not entered. -/
def planWithin (config : ScanConfig) (size : Bool) : Nat → Planner
  | 0 => fun _ _ => pure []
  | steps + 1 => fun selections n =>
    entering n [] (planShape u config size (planWithin config size steps) selections
      (u.expression n))

/-- What could later supply a value of the expression. -/
def planHooks (config : ScanConfig) (size : Bool) (selections : List String) (n : NodeId) :
    Marking (List HookPlan) :=
  planWithin u config size (config.maxResolutionDepth + 1) selections n

variable {u}

/-- A search with marks plans what a search without them plans. -/
def Planner.Agrees (marks : Marks) (onward : Planner) (plain : CryptoUsage.Planner) : Prop :=
  ∀ selections n, Yields marks (onward selections n) (plain selections n)

section Shapes

variable {onward : Planner} {plain : CryptoUsage.Planner} {selections : List String}

theorem planVariable_yields (h : onward.Agrees marks plain) (s : Symbol) :
    Yields marks (planVariable u onward selections s) (u.planVariable plain selections s) := by
  have hsources : Yields marks (collect (onward selections) (u.valueSources s))
      ((u.valueSources s).flatMap (plain selections)) :=
    yields_collect (fun source => h selections source) _
  rw [planVariable, CompilationUnit.planVariable]
  cases u.enumTypeOf? s with
  | some name => exact yields_pure _
  | none =>
    simp only
    cases s.kind with
    | parameter => exact yields_pure _
    | «local» => exact hsources
    | field => exact hsources
    | enumConstant => exact yields_pure []

theorem planInvocation_yields (h : onward.Agrees marks plain) (config : ScanConfig) (site : Site) :
    Yields marks (planInvocation u config onward selections site)
      (u.planInvocation config plain selections site) := by
  rw [planInvocation, CompilationUnit.planInvocation]
  generalize (do
    let receiver ← u.receiver? site
    let name ← u.methodName? site
    return (u.unwrap config receiver, name) : Option (NodeId × String)) = selection
  cases selection.bind fun (receiver, name) =>
      (u.receiverEnum? receiver).map fun enumName => (enumName, name) with
  | some waited => exact yields_pure _
  | none =>
    simp only
    cases u.methodDefinition? site with
    | some method => exact yields_pure _
    | none =>
      cases selection with
      | some selected => exact h ..
      | none => exact yields_pure []

theorem planConstruction_yields (h : onward.Agrees marks plain) (site : Site) :
    Yields marks (planConstruction u onward selections site)
      (u.planConstruction plain selections site) := by
  rw [planConstruction, CompilationUnit.planConstruction]
  rcases u.arguments site with _ | ⟨argument, _ | _⟩
  · exact yields_pure []
  · exact h ..
  · exact yields_pure []

theorem planShape_yields (h : onward.Agrees marks plain) (config : ScanConfig) (size : Bool)
    (e : Expression) :
    Yields marks (planShape u config size onward selections e)
      (u.planShape config size plain selections e) := by
  cases e with
  | wrapped inner => exact h ..
  | «variable» s => exact planVariable_yields h s
  | member object name => exact h ..
  | call site =>
    cases site with
    | invocation c => exact planInvocation_yields h config _
    | construction c => exact planConstruction_yields h _
    | enumSelection c => exact yields_pure []
  | arrayCreation dimensions rank elements =>
    -- only one dimension of an array of rank one is looked at
    rcases dimensions with _ | ⟨dimension, _ | _⟩
    · exact yields_pure []
    · rcases rank with _ | _ | _
      · exact yields_pure []
      · simp only [planShape, CompilationUnit.planShape]
        split
        · exact h ..
        · exact yields_pure []
      · exact yields_pure []
    · exact yields_pure []
  | _ => exact yields_pure []

end Shapes

/-- **A search that marks the nodes of its path plans the same, and leaves the marks as they
were.** -/
theorem planWithin_yields (u : CompilationUnit) (config : ScanConfig) (size : Bool) (steps : Nat)
    (path : List NodeId) :
    (planWithin u config size steps).Agrees path.toFinset
      (u.planWithin config size steps path) := by
  induction steps generalizing path with
  | zero => exact fun _ _ => yields_pure []
  | succ steps ih =>
    intro selections n
    simp only [planWithin, CompilationUnit.planWithin]
    by_cases hn : n ∈ path
    · rw [if_pos (List.contains_iff_mem.mpr hn)]
      exact yields_entering_of_mem (List.mem_toFinset.mpr hn) ..
    · rw [if_neg (hn ∘ List.contains_iff_mem.mp)]
      refine yields_entering (hn ∘ List.mem_toFinset.mp) [] ?_
      rw [← List.toFinset_cons]
      exact planShape_yields (ih (n :: path)) ..

theorem planHooks_yields (u : CompilationUnit) (config : ScanConfig) (size : Bool)
    (selections : List String) (n : NodeId) :
    Yields ∅ (planHooks u config size selections n) (u.planHooks config size selections n) :=
  planWithin_yields u config size _ [] ..

end Marked
end CryptoUsage
