import CryptoUsage.Detection.Matching
import CryptoUsage.Detection.Plan
import CryptoUsage.Detection.Trace
import Mathlib.Logic.Function.Basic

/-!
# One program under other numbers

Nodes are known by their numbers, and the numbers say nothing: a program may come with its nodes
numbered in another way, or with nodes in between that mean nothing, and what an analysis finds in
it should be the same.  This directory shows that it is.

A renumbering is an injective function `ρ` on nodes.  What is made of nodes is renumbered with
them: sites, variables, expressions, and later stores, hooks and whole states of a scan.  For each
of these there is a function `renumber ρ`, and next to it what it leaves alone.

`CompilationUnit.Renumbers ρ u' u` says that `u'` is the program `u` under other numbers: whatever
an analysis asks `u` about node `ρ n` has the answer that `u'` gives about `n`, with the nodes in
it renumbered.  It lists the questions of `FrontEnd/Unit` that are asked by matching, by following
values and by a scan, one field for each, and nothing else is known of either unit.  So what rests
on it holds for any two units whose front ends agree, in whatever way they come to.

Everything that an analysis does with such answers is stated in one form: done in `u` to what is
renumbered, it gives the renumbered result of doing it in `u'`.  Such equations go together like the
definitions they are about, and most are proved by going through the definition once.
-/

set_option autoImplicit false

namespace CryptoUsage

open Function

/-! ## What is made of nodes -/

section Renumber

variable (ρ : NodeId → NodeId)

/-- A site under other numbers. -/
def Site.renumber : Site → Site
  | invocation n => invocation (ρ n)
  | construction n => construction (ρ n)
  | enumSelection n => enumSelection (ρ n)

/-- A variable under other numbers. -/
def Symbol.renumber (s : Symbol) : Symbol := { s with declaration := ρ s.declaration }

/-- The shape of an expression under other numbers. -/
def Expression.renumber : Expression → Expression
  | literal value => literal value
  | «variable» symbol => «variable» (symbol.renumber ρ)
  | member object name => member (ρ object) name
  | enumConstant declaration constant => enumConstant (ρ declaration) (ρ constant)
  | call site => call (site.renumber ρ)
  | arrayCreation dimensions rank elements => arrayCreation (dimensions.map ρ) rank elements
  | wrapped inner => wrapped (ρ inner)
  | unknown => unknown

/-- A reading under other numbers. -/
def Reading.renumber (reading : Reading) : Reading := { reading with node := ρ reading.node }

/-- A frame under other numbers. -/
def Frame.renumber (frame : Frame) : Frame := frame.map (Prod.map (Symbol.renumber ρ) ρ)

/-- A plan under other numbers. -/
def HookPlan.renumber : HookPlan → HookPlan
  | parameter method index selections => parameter (ρ method) index selections
  | result method selections => result (ρ method) selections
  | enum name selections => enum name selections

/-- A trace under other numbers. -/
def Trace.renumber : Trace → Trace
  | start => start
  | different => different
  | unnamed => unnamed
  | «on» symbol => «on» (symbol.renumber ρ)

/-- A binding under other numbers. -/
def Binding.renumber (binding : Binding) : Binding where
  bound := binding.bound.map (Symbol.renumber ρ)
  assigned := binding.assigned.map (Symbol.renumber ρ)
  chained := binding.chained

end Renumber

variable {ρ : NodeId → NodeId}

@[simp] theorem Site.renumber_invocation (n : NodeId) :
    (invocation n).renumber ρ = invocation (ρ n) := rfl

@[simp] theorem Site.renumber_construction (n : NodeId) :
    (construction n).renumber ρ = construction (ρ n) := rfl

@[simp] theorem Site.renumber_enumSelection (n : NodeId) :
    (enumSelection n).renumber ρ = enumSelection (ρ n) := rfl

@[simp] theorem Site.node_renumber (site : Site) : (site.renumber ρ).node = ρ site.node := by
  cases site <;> rfl

@[simp] theorem Site.isEnumSelection_renumber (site : Site) :
    (site.renumber ρ).isEnumSelection = site.isEnumSelection := by cases site <;> rfl

theorem Site.renumber_injective (hρ : Injective ρ) : Injective (Site.renumber ρ) := by
  intro site site' h
  cases site <;> cases site' <;> simp_all [hρ.eq_iff]

@[simp] theorem Symbol.name_renumber (s : Symbol) : (s.renumber ρ).name = s.name := rfl

@[simp] theorem Symbol.kind_renumber (s : Symbol) : (s.renumber ρ).kind = s.kind := rfl

@[simp] theorem Symbol.declaration_renumber (s : Symbol) :
    (s.renumber ρ).declaration = ρ s.declaration := rfl

theorem Symbol.same_renumber (hρ : Injective ρ) (s s' : Symbol) :
    (s.renumber ρ).same (s'.renumber ρ) = s.same s' := by
  have hsame : (ρ s.declaration == ρ s'.declaration) = (s.declaration == s'.declaration) := by
    rw [Bool.eq_iff_iff, beq_iff_eq, beq_iff_eq, hρ.eq_iff]
  simp [Symbol.same, hsame]

theorem Trace.admits_renumber (hρ : Injective ρ) (trace : Trace) (binding : Binding) :
    (trace.renumber ρ).admits (binding.renumber ρ) = trace.admits binding := by
  cases trace with
  | «on» symbol => cases h : binding.bound <;>
      simp [Trace.renumber, Trace.admits, Binding.renumber, h, Symbol.same_renumber hρ]
  | _ => simp [Trace.renumber, Trace.admits, Binding.renumber]

/-! ## The same program -/

/-- `u'` is the program `u` under other numbers. -/
structure CompilationUnit.Renumbers (ρ : NodeId → NodeId) (u' u : CompilationUnit) : Prop where
  injective : Injective ρ
  filePath : u.filePath = u'.filePath
  location : ∀ n, u.tree.location (ρ n) = u'.tree.location n
  ancestors : ∀ n, u.tree.ancestors (ρ n) = (u'.tree.ancestors n).map ρ
  -- Sites.
  site? : ∀ n, u.site? (ρ n) = (u'.site? n).map (Site.renumber ρ)
  sitesIn : ∀ scope, u.sitesIn (ρ scope) = (u'.sitesIn scope).map (Site.renumber ρ)
  arguments : ∀ site : Site, u.arguments (site.renumber ρ) = (u'.arguments site).map ρ
  receiver? : ∀ site : Site, u.receiver? (site.renumber ρ) = (u'.receiver? site).map ρ
  methodName? : ∀ site : Site, u.methodName? (site.renumber ρ) = u'.methodName? site
  invokedObjectType? : ∀ site : Site,
    u.invokedObjectType? (site.renumber ρ) = u'.invokedObjectType? site
  parameterTypes : ∀ site : Site, u.parameterTypes (site.renumber ρ) = u'.parameterTypes site
  enumClassName? : ∀ site : Site, u.enumClassName? (site.renumber ρ) = u'.enumClassName? site
  -- Expressions and variables.
  expression : ∀ n, u.expression (ρ n) = (u'.expression n).renumber ρ
  assignedSymbol? : ∀ n, u.assignedSymbol? (ρ n) = (u'.assignedSymbol? n).map (Symbol.renumber ρ)
  initializer? : ∀ s : Symbol, u.initializer? (s.renumber ρ) = (u'.initializer? s).map ρ
  assignments : ∀ s : Symbol, u.assignments (s.renumber ρ) = (u'.assignments s).map ρ
  declaredType? : ∀ s : Symbol, u.declaredType? (s.renumber ρ) = u'.declaredType? s
  symbolScope : ∀ s : Symbol, u.symbolScope (s.renumber ρ) = ρ (u'.symbolScope s)
  -- Methods.
  enclosingMethod? : ∀ n, u.enclosingMethod? (ρ n) = (u'.enclosingMethod? n).map ρ
  enclosingScope : ∀ n, u.enclosingScope (ρ n) = ρ (u'.enclosingScope n)
  methodParameters : ∀ method,
    u.methodParameters (ρ method) = (u'.methodParameters method).map (Symbol.renumber ρ)
  methodReturns : ∀ method, u.methodReturns (ρ method) = (u'.methodReturns method).map ρ
  methodDefinition? : ∀ site : Site,
    u.methodDefinition? (site.renumber ρ) = (u'.methodDefinition? site).map ρ
  methodMatcher? : ∀ method, u.methodMatcher? (ρ method) = u'.methodMatcher? method
  -- Enums.
  enumNamed? : ∀ name, u.enumNamed? name = (u'.enumNamed? name).map ρ
  enumConstantArguments : ∀ constant,
    u.enumConstantArguments (ρ constant) = (u'.enumConstantArguments constant).map ρ
  enumConstructorParameters : ∀ declaration,
    u.enumConstructorParameters (ρ declaration) = u'.enumConstructorParameters declaration
  constantName : ∀ constant, u.constantName (ρ constant) = u'.constantName constant

namespace CompilationUnit.Renumbers

variable {u u' : CompilationUnit} (h : Renumbers ρ u' u)
include h

/-! ## Questions made of others -/

theorem parameterPosition? (s : Symbol) :
    u.parameterPosition? (s.renumber ρ) = (u'.parameterPosition? s).map (Prod.map ρ id) := by
  have hfind (parameters : List Symbol) :
      (parameters.map (Symbol.renumber ρ)).findIdx? (fun p => p.same (s.renumber ρ)) =
        parameters.findIdx? fun p => p.same s := by
    simp [List.findIdx?_map, Function.comp_def, Symbol.same_renumber h.injective]
  cases hmethod : u'.enclosingMethod? s.declaration with
  | none => simp [CompilationUnit.parameterPosition?, h.enclosingMethod?, hmethod]
  | some method =>
    cases hplace : (u'.methodParameters method).findIdx? fun p => p.same s <;>
      simp [CompilationUnit.parameterPosition?, h.enclosingMethod?, hmethod, h.methodParameters,
        hfind, hplace]

theorem matches_renumber (matcher : MethodMatcher) (site : Site) (context : MatchContext) :
    matcher.matches u (site.renumber ρ) context = matcher.matches u' site context := by
  simp only [MethodMatcher.matches, Site.isEnumSelection_renumber, h.methodName?,
    h.invokedObjectType?, h.parameterTypes]

theorem selectsEnum_renumber (name : String) (site : Site) :
    selectsEnum u name (site.renumber ρ) = selectsEnum u' name site := by
  simp only [selectsEnum, Site.isEnumSelection_renumber, h.enumClassName?]

theorem unwrapWithin (steps : Nat) (n : NodeId) :
    u.unwrapWithin steps (ρ n) = ρ (u'.unwrapWithin steps n) := by
  induction steps generalizing n with
  | zero => rfl
  | succ steps ih =>
    rw [CompilationUnit.unwrapWithin, CompilationUnit.unwrapWithin, h.expression]
    cases u'.expression n <;> simp [Expression.renumber, ih]

theorem unwrap (config : ScanConfig) (n : NodeId) :
    u.unwrap config (ρ n) = ρ (u'.unwrap config n) := h.unwrapWithin ..

end CompilationUnit.Renumbers

end CryptoUsage
