import CryptoUsage.Proofs.Renumbering.Unit
import Mathlib.Data.List.Basic

/-!
# Following values under other numbers

The readings of a node, and the plans of what to wait for, are the same under other numbers.

Both searches go on from node to node, and what they do at one node is stated in the program given
how to go on.  So the same is done here: `ResolvesAlike` says of two ways to go on that the one
gives in `u` what the other gives in `u'`, and each case of the search keeps to that, given that
going on does (`resolveVariable` to `resolveShape`, `planVariable` to `planShape`).  The induction
on the depth then has nothing left to do (`resolveWithin`, `planWithin`).  The nodes of the path
are renumbered with everything else; that a node is not entered twice is the one place where it
matters that `ρ` is injective, apart from the question whether two variables are the same.
-/

set_option autoImplicit false

namespace CryptoUsage
namespace CompilationUnit

open Function

variable {ρ : NodeId → NodeId} {u u' : CompilationUnit}

/-- Going on in the one way gives what going on in the other way gives, under other numbers. -/
def ResolvesAlike (ρ : NodeId → NodeId) (onward' onward : Resolver) : Prop :=
  ∀ frames selections n, onward (frames.map (Frame.renumber ρ)) selections (ρ n) =
    (onward' frames selections n).map (Reading.renumber ρ)

/-- The same for plans. -/
def PlansAlike (ρ : NodeId → NodeId) (onward' onward : Planner) : Prop :=
  ∀ selections n, onward selections (ρ n) = (onward' selections n).map (HookPlan.renumber ρ)

theorem readingOf_renumber (factory : ValueFactory) (selections : List String) (c : Constant)
    (n : NodeId) : readingOf factory selections c (ρ n) =
      (readingOf factory selections c n).map (Reading.renumber ρ) := by
  cases h : (c.selectAll? selections).bind fun value => value.cast? factory.expected <;>
    simp [readingOf, h, Reading.renumber]

theorem argument?_renumber (hρ : Injective ρ) (frame : Frame) (s : Symbol) :
    (frame.renumber ρ).argument? (s.renumber ρ) = (frame.argument? s).map ρ := by
  simp [Frame.argument?, Frame.renumber, List.find?_map, Function.comp_def, Symbol.same_renumber hρ]

theorem contains_map (hρ : Injective ρ) (path : List NodeId) (n : NodeId) :
    (path.map ρ).contains (ρ n) = path.contains n := by
  rw [Bool.eq_iff_iff, List.contains_iff_mem, List.contains_iff_mem, List.mem_map_of_injective hρ]

theorem resolveArray_renumber {onward onward' : Resolver} (factory : ValueFactory)
    (honward : ResolvesAlike ρ onward' onward) (frames : List Frame) (n : NodeId)
    (dimensions : List NodeId) (rank : Nat) (elements : Option Nat) :
    resolveArray factory onward (frames.map (Frame.renumber ρ)) (ρ n) (dimensions.map ρ) rank
        elements =
      (resolveArray factory onward' frames n dimensions rank elements).map
        (Reading.renumber ρ) := by
  unfold resolveArray
  split
  · rfl
  · match dimensions, elements with
    | [dimension], elements => by_cases hrank : rank = 1 <;> simp [hrank, honward frames]
    | [], some count => simp [readingOf_renumber]
    | [], none => rfl
    | _ :: _ :: _, _ => rfl

namespace Renumbers

variable (h : Renumbers ρ u' u)
include h

theorem frameOf (method : NodeId) (site : Site) :
    u.frameOf (ρ method) (site.renumber ρ) = (u'.frameOf method site).renumber ρ := by
  simp [CompilationUnit.frameOf, h.methodParameters, h.arguments, Frame.renumber, List.zip_map]

theorem valueSources (s : Symbol) :
    u.valueSources (s.renumber ρ) = (u'.valueSources s).map ρ := by
  cases hinit : u'.initializer? s <;>
    simp [CompilationUnit.valueSources, h.initializer?, h.assignments, hinit]

section Reading

variable {onward onward' : Resolver} (honward : ResolvesAlike ρ onward' onward)
include honward

theorem resolveVariable (frames : List Frame) (selections : List String) (s : Symbol) :
    u.resolveVariable onward (frames.map (Frame.renumber ρ)) selections (s.renumber ρ) =
      (u'.resolveVariable onward' frames selections s).map (Reading.renumber ρ) := by
  have hsources (frames : List Frame) :
      CompilationUnit.resolveVariable.bySources u onward (frames.map (Frame.renumber ρ)) selections
          (s.renumber ρ) =
        (CompilationUnit.resolveVariable.bySources u' onward' frames selections s).map
          (Reading.renumber ρ) := by
    simp only [CompilationUnit.resolveVariable.bySources, Symbol.kind_renumber, h.valueSources]
    split
    · rfl
    · rw [List.flatMap_map, List.map_flatMap]
      simp only [honward frames selections _]
  cases frames with
  | nil => exact hsources []
  | cons frame outer =>
    simp only [CompilationUnit.resolveVariable, List.map_cons, argument?_renumber h.injective]
    cases frame.argument? s with
    | none => exact hsources (frame :: outer)
    | some argument => exact honward outer selections argument

omit honward in
theorem enumArgument? (declaration constant : NodeId) (selection : String) :
    u.enumArgument? (ρ declaration) (ρ constant) selection =
      (u'.enumArgument? declaration constant selection).map ρ := by
  simp only [CompilationUnit.enumArgument?, h.enumConstantArguments, h.enumConstructorParameters,
    List.length_map, List.getElem?_map, Option.bind_eq_bind]
  cases ((u'.enumConstructorParameters declaration).filter fun parameters =>
    parameters.length == (u'.enumConstantArguments constant).length).findSome? fun parameters =>
      parameters.findIdx? fun parameter => isAccessorOf parameter selection <;> rfl

theorem resolveEnumConstant (factory : ValueFactory) (frames : List Frame)
    (selections : List String) (declaration constant : NodeId) :
    u.resolveEnumConstant factory onward (frames.map (Frame.renumber ρ)) selections (ρ declaration)
        (ρ constant) =
      (u'.resolveEnumConstant factory onward' frames selections declaration constant).map
        (Reading.renumber ρ) := by
  simp only [CompilationUnit.resolveEnumConstant, h.constantName, h.enumArgument?]
  split
  · exact readingOf_renumber ..
  · split
    · exact readingOf_renumber ..
    · cases u'.enumArgument? declaration constant _ with
      | none => rfl
      | some argument => exact honward ..

omit honward in
theorem isOnEnumConstant (config : ScanConfig) (site : Site) :
    u.isOnEnumConstant config (site.renumber ρ) = u'.isOnEnumConstant config site := by
  simp only [CompilationUnit.isOnEnumConstant, h.receiver?, Option.any_map, h.unwrap,
    h.expression]
  congr 1
  funext receiver
  cases u'.expression (u'.unwrap config receiver) <;> rfl

theorem resolveReturned (config : ScanConfig) (frames : List Frame) (selections : List String)
    (site : Site) :
    u.resolveReturned config onward (frames.map (Frame.renumber ρ)) selections
        (site.renumber ρ) =
      (u'.resolveReturned config onward' frames selections site).map (Reading.renumber ρ) := by
  simp only [CompilationUnit.resolveReturned, h.isOnEnumConstant, h.methodDefinition?]
  split
  · rfl
  · cases u'.methodDefinition? site with
    | none => rfl
    | some method =>
      simp only [Option.map_some, h.methodReturns, h.frameOf, List.flatMap_map, List.map_flatMap]
      congr 1
      funext source
      exact honward (u'.frameOf method site :: frames) selections source

theorem resolveInvocation (config : ScanConfig) (frames : List Frame) (selections : List String)
    (site : Site) :
    u.resolveInvocation config onward (frames.map (Frame.renumber ρ)) selections
        (site.renumber ρ) =
      (u'.resolveInvocation config onward' frames selections site).map (Reading.renumber ρ) := by
  simp only [CompilationUnit.resolveInvocation, h.resolveReturned honward, h.receiver?,
    h.methodName?]
  cases u'.resolveReturned config onward' frames selections site with
  | cons reading readings => rfl
  | nil =>
    cases u'.receiver? site <;> cases u'.methodName? site <;>
      simp [honward frames]

theorem resolveConstruction (frames : List Frame) (selections : List String) (site : Site) :
    u.resolveConstruction onward (frames.map (Frame.renumber ρ)) selections (site.renumber ρ) =
      (u'.resolveConstruction onward' frames selections site).map (Reading.renumber ρ) := by
  simp only [CompilationUnit.resolveConstruction, h.arguments]
  match u'.arguments site with
  | [] => rfl
  | [argument] => exact honward ..
  | _ :: _ :: _ => rfl

/-- What is done with an expression. -/
theorem resolveShape (config : ScanConfig) (factory : ValueFactory) (frames : List Frame)
    (selections : List String) (n : NodeId) (shape : Expression) :
    u.resolveShape config factory onward (frames.map (Frame.renumber ρ)) selections (ρ n)
        (shape.renumber ρ) =
      (u'.resolveShape config factory onward' frames selections n shape).map
        (Reading.renumber ρ) := by
  cases shape with
  | literal c => exact readingOf_renumber ..
  | «variable» s => exact h.resolveVariable honward ..
  | member object name => exact honward ..
  | enumConstant declaration constant => exact h.resolveEnumConstant honward ..
  | call site =>
    cases site with
    | invocation c => exact h.resolveInvocation honward config frames selections (.invocation c)
    | construction c => exact h.resolveConstruction honward frames selections (.construction c)
    | enumSelection c => rfl
  | arrayCreation dimensions rank elements => exact resolveArray_renumber factory honward ..
  | wrapped inner => exact honward ..
  | unknown => rfl

end Reading

theorem resolveWithin (config : ScanConfig) (factory : ValueFactory) (steps : Nat)
    (path : List NodeId) : ResolvesAlike ρ (u'.resolveWithin config factory steps path)
      (u.resolveWithin config factory steps (path.map ρ)) := by
  induction steps generalizing path with
  | zero => exact fun _ _ _ => rfl
  | succ steps ih =>
    intro frames selections n
    simp only [CompilationUnit.resolveWithin, contains_map h.injective, h.expression]
    split
    · rfl
    · exact h.resolveShape (ih (n :: path)) ..

/-- **The readings of an expression do not depend on the numbers of the nodes.** -/
theorem resolveValue (config : ScanConfig) (factory : ValueFactory) (selections : List String)
    (n : NodeId) : u.resolveValue config factory selections (ρ n) =
      (u'.resolveValue config factory selections n).map (Reading.renumber ρ) :=
  h.resolveWithin config factory _ [] [] selections n

theorem resolveReturns (config : ScanConfig) (factory : ValueFactory) (selections : List String)
    (method : NodeId) (site : Site) :
    u.resolveReturns config factory selections (ρ method) (site.renumber ρ) =
      (u'.resolveReturns config factory selections method site).map (Reading.renumber ρ) := by
  simp only [CompilationUnit.resolveReturns, h.methodReturns, h.frameOf, List.flatMap_map,
    List.map_flatMap]
  congr 1
  funext source
  exact h.resolveWithin config factory _ [] [u'.frameOf method site] selections source

/-! ## What to wait for -/

theorem enumTypeOf? (s : Symbol) : u.enumTypeOf? (s.renumber ρ) = u'.enumTypeOf? s := by
  simp only [CompilationUnit.enumTypeOf?, h.declaredType?, h.enumNamed?, Option.bind_eq_bind,
    Option.bind_map, Function.comp_def]

theorem receiverEnum? (receiver : NodeId) :
    u.receiverEnum? (ρ receiver) = u'.receiverEnum? receiver := by
  simp only [CompilationUnit.receiverEnum?, h.expression]
  cases u'.expression receiver <;> simp [Expression.renumber, h.enumTypeOf?]

section Planning

variable {onward onward' : Planner} (honward : PlansAlike ρ onward' onward)
include honward

theorem planVariable (selections : List String) (s : Symbol) :
    u.planVariable onward selections (s.renumber ρ) =
      (u'.planVariable onward' selections s).map (HookPlan.renumber ρ) := by
  simp only [CompilationUnit.planVariable, h.enumTypeOf?, Symbol.kind_renumber,
    h.parameterPosition?, h.valueSources]
  split
  · rfl
  · split
    · cases u'.parameterPosition? s <;> simp [HookPlan.renumber]
    · simp only [List.flatMap_map, List.map_flatMap, honward selections _]
    · simp only [List.flatMap_map, List.map_flatMap, honward selections _]
    · rfl

theorem planInvocation (config : ScanConfig) (selections : List String) (site : Site) :
    u.planInvocation config onward selections (site.renumber ρ) =
      (u'.planInvocation config onward' selections site).map (HookPlan.renumber ρ) := by
  simp only [CompilationUnit.planInvocation, h.receiver?, h.methodName?, h.methodDefinition?]
  cases u'.receiver? site with
  | none => cases u'.methodDefinition? site <;> simp [HookPlan.renumber]
  | some receiver =>
    cases u'.methodName? site with
    | none => cases u'.methodDefinition? site <;> simp [HookPlan.renumber]
    | some name =>
      cases henum : u'.receiverEnum? (u'.unwrap config receiver) <;>
        cases u'.methodDefinition? site <;>
          simp [h.unwrap, h.receiverEnum?, henum, HookPlan.renumber, honward (_ ++ _)]

theorem planConstruction (selections : List String) (site : Site) :
    u.planConstruction onward selections (site.renumber ρ) =
      (u'.planConstruction onward' selections site).map (HookPlan.renumber ρ) := by
  simp only [CompilationUnit.planConstruction, h.arguments]
  match u'.arguments site with
  | [] => rfl
  | [argument] => exact honward ..
  | _ :: _ :: _ => rfl

theorem planShape (config : ScanConfig) (size : Bool) (selections : List String)
    (shape : Expression) :
    u.planShape config size onward selections (shape.renumber ρ) =
      (u'.planShape config size onward' selections shape).map (HookPlan.renumber ρ) := by
  cases shape with
  | wrapped inner => exact honward ..
  | «variable» s => exact h.planVariable honward ..
  | member object name => exact honward ..
  | call site =>
    cases site with
    | invocation c => exact h.planInvocation honward config selections (.invocation c)
    | construction c => exact h.planConstruction honward selections (.construction c)
    | enumSelection c => rfl
  | arrayCreation dimensions rank elements =>
    match dimensions, rank with
    | [dimension], 1 =>
      cases size <;> simp [CompilationUnit.planShape, Expression.renumber, honward []]
    | [_], 0 | [_], _ + 2 | [], _ | _ :: _ :: _, _ =>
      simp [CompilationUnit.planShape, Expression.renumber]
  | _ => rfl

end Planning

theorem planWithin (config : ScanConfig) (size : Bool) (steps : Nat) (path : List NodeId) :
    PlansAlike ρ (u'.planWithin config size steps path)
      (u.planWithin config size steps (path.map ρ)) := by
  induction steps generalizing path with
  | zero => exact fun _ _ => rfl
  | succ steps ih =>
    intro selections n
    simp only [CompilationUnit.planWithin, contains_map h.injective, h.expression]
    split
    · rfl
    · exact h.planShape (ih (n :: path)) ..

/-- **What is waited for does not depend on the numbers of the nodes.** -/
theorem planHooks (config : ScanConfig) (size : Bool) (selections : List String) (n : NodeId) :
    u.planHooks config size selections (ρ n) =
      (u'.planHooks config size selections n).map (HookPlan.renumber ρ) :=
  h.planWithin config size _ [] selections n

end Renumbers
end CompilationUnit
end CryptoUsage
