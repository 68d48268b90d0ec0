import CryptoUsage.FrontEnd.PythonTypes
import CryptoUsage.Proofs.Comments.PythonExpressions
import CryptoUsage.Proofs.FrontEnd.TypeQuestions

/-!
# Types of Python expressions without the comments

Python declares few types, so the type of a receiver is mostly the callee that made it, and a
callee is known by its path.  To know the callee of one call that of another may have to be asked
for, without end at times.  As for Java, the queries are made of the answers they ask for, and one
step is looked at.

## What is here

* Paths.  `a.b.c` is read from the accesses in it with the first name replaced by what it imports
  (`dottedPath?`); the walk gets as many steps as there are nodes, and `walk_size_spoken` evens
  this out.  The supertypes of a class are the paths in its list of arguments, and a comment there
  is no path (`dottedPath?_of_isComment`, `classType`).
* Given answers for callees that agree, the type of a value agrees (`valueTypeBy`), and with it
  that of a variable, of a receiver, of the object of a call (`declaredTypeBy`, `receiverTypeBy`,
  `invokedObjectTypeBy`).  What stands in parentheses is taken to be the first child; that no
  comment stands there is part of `Python.CommentsApart`.
* One step is `qualifiedCalleeBy`, any number of steps `qualifiedCalleeWithin`.  The steps for the
  smaller tree are enough (`qualifiedCalleeOf`, by `Proofs/FrontEnd/TypeQuestions`).

The rest are the questions of an analysis: declared types, object types, parameter types, and the
definition that a call goes to, which depends on the number of arguments that a function accepts
(`acceptsArity`, `methodDefinition?`).
-/

set_option autoImplicit false

namespace CryptoUsage
namespace Python
namespace CommentsApart

open SyntaxTree

variable {u : CompilationUnit} (h : CommentsApart u)
include h

/-! ## Paths -/

/-- A definition that is in no class. -/
theorem moduleDefinition? (name kind : String) : Python.definitionNamed? u name kind none =
    (Python.definitionNamed? u.withoutComments name kind none).map u.tree.spokenId :=
  h.definitionNamed? name kind none

theorem dottedPathWithin? (steps : Nat) (n : NodeId) :
    Python.dottedPathWithin? u steps (u.tree.spokenId n) =
      Python.dottedPathWithin? u.withoutComments steps n := by
  induction steps generalizing n with
  | zero => rfl
  | succ steps ih =>
    simp only [Python.dottedPathWithin?, kind_spoken, text_spoken, h.resolveIdentifier?,
      Option.isSome_map, CompilationUnit.imports_withoutComments h.extras, h.moduleDefinition?,
      child?_spoken h.extras, Option.bind_eq_bind, Option.bind_map, Function.comp_def, ih]
    split
    · split
      · rfl
      · cases Python.definitionNamed? u.withoutComments (u.tree.withoutComments.text n)
          "function_definition" none <;>
        cases Python.definitionNamed? u.withoutComments (u.tree.withoutComments.text n)
          "class_definition" none <;> rfl
    · rfl
    · rfl

theorem dottedPath? (n : NodeId) :
    Python.dottedPath? u (u.tree.spokenId n) = Python.dottedPath? u.withoutComments n := by
  rw [Python.dottedPath?, h.dottedPathWithin?]
  refine walk_size_spoken h.extras (fun a b n hab => ?_) n
  simp only [Python.dottedPathWithin?]
  split
  · rfl
  · refine Option.bind_congr fun c hc => ?_
    rw [hab c (parent?_lt _ (parent?_of_child? hc).1) (lt_size_of_child? hc)]
  · rfl

omit h in
theorem dottedPath?_of_isComment {c : NodeId} (hc : u.tree.isComment c = true) :
    Python.dottedPath? u c = none := by
  rw [Python.dottedPath?]
  cases u.tree.size with
  | zero => rfl
  | succ steps =>
    unfold Python.dottedPathWithin?
    split
    case h_1 hkind | h_2 hkind =>
      exact absurd hkind (kind_ne_of_isComment hc (by decide))
    · rfl

theorem classType (n : NodeId) :
    Python.classType u (u.tree.spokenId n) = Python.classType u.withoutComments n := by
  simp only [Python.classType, child?_spoken h.extras, Option.map_map, Function.comp_def,
    text_spoken]
  cases u.tree.withoutComments.child? n "superclasses" with
  | none => rfl
  | some list =>
    simp only [Option.map_some, filterMap_spoken (namedChildren_spoken h.extras list)
      fun c hc => dottedPath?_of_isComment hc, h.dottedPath?]
    rfl

/-! ## Types, given the callees -/

section Asking

variable {f f' : NodeId → Answer String} (hf : ∀ n, f (u.tree.spokenId n) = f' n)
include hf

theorem valueTypeBy (levels : Nat) (n : NodeId) :
    Python.valueTypeBy u f levels (u.tree.spokenId n) =
      Python.valueTypeBy u.withoutComments f' levels n := by
  induction levels generalizing n with
  | zero => rfl
  | succ levels ih =>
    simp only [Python.valueTypeBy, kind_spoken, text_spoken, hf, h.resolveIdentifier?,
      h.initializer?, Answer.bind_eq_bind, Answer.liftM_eq_ofOption, Answer.ofOption_map,
      Answer.bind_map, spokenId_inj, ih]
    split
    case h_8 hkind =>
      rw [← kind_spoken] at hkind
      have hlt := u.tree.lt_size_of_kind_ne (n := u.tree.spokenId n) (by rw [hkind]; decide)
      rw [head?_spoken (namedChildren_spoken h.extras n) (h.parenthesized _ hlt hkind),
        Answer.ofOption_map, Answer.bind_map]
      simp only [ih]
    all_goals rfl

theorem declaredTypeBy (s : Symbol) : Python.declaredTypeBy u f (s.renumber u.tree.spokenId) =
    Python.declaredTypeBy u.withoutComments f' s := by
  simp only [Python.declaredTypeBy, Symbol.kind_renumber, Symbol.declaration_renumber,
    child?_spoken h.extras, Option.map_map, Function.comp_def, text_spoken, h.initializer?,
    CompilationUnit.imports_withoutComments h.extras, Answer.ofOption_map, Answer.bind_map,
    h.valueTypeBy hf]

theorem receiverTypeBy (call object : NodeId) :
    Python.receiverTypeBy u f (u.tree.spokenId call) (u.tree.spokenId object) =
      Python.receiverTypeBy u.withoutComments f' call object := by
  simp only [Python.receiverTypeBy, kind_spoken, text_spoken, h.dottedPath?, h.enclosingClass?,
    Option.map_map, Function.comp_def, h.classType, h.resolveIdentifier?, h.expression, hf]
  split
  · split
    · rfl
    · cases Python.resolveIdentifier? u.withoutComments object with
      | none => rfl
      | some symbol => exact h.declaredTypeBy hf symbol
  · cases Python.expression u.withoutComments object with
    | «variable» symbol => exact h.declaredTypeBy hf symbol
    | _ => rfl
  · rfl
  · rfl

theorem invokedObjectTypeBy (site : Site) :
    Python.invokedObjectTypeBy u f (site.renumber u.tree.spokenId) =
      Python.invokedObjectTypeBy u.withoutComments f' site := by
  cases site with
  | invocation n =>
    simp only [Python.invokedObjectTypeBy, Site.renumber_invocation, child?_spoken h.extras,
      Answer.bind_eq_bind, Answer.liftM_eq_ofOption, Answer.ofOption_map, Answer.bind_map,
      kind_spoken, h.dottedPath?, h.receiverTypeBy hf]
  | _ n => rfl

theorem qualifiedCalleeBy (n : NodeId) : Python.qualifiedCalleeBy u f (u.tree.spokenId n) =
    Python.qualifiedCalleeBy u.withoutComments f' n := by
  have hsite : Site.invocation (u.tree.spokenId n) = (Site.invocation n).renumber u.tree.spokenId :=
    rfl
  rw [Python.qualifiedCalleeBy, hsite, h.invokedObjectTypeBy hf, h.methodName?]
  rfl

end Asking

/-! ## The questions of an analysis -/

theorem qualifiedCalleeWithin (steps : Nat) (n : NodeId) :
    Python.qualifiedCalleeWithin u steps (u.tree.spokenId n) =
      Python.qualifiedCalleeWithin u.withoutComments steps n := by
  induction steps generalizing n with
  | zero => rfl
  | succ steps ih => exact h.qualifiedCalleeBy ih n

/-- As many steps as there are nodes with the comments are enough without them. -/
theorem qualifiedCalleeOf (n : NodeId) : Python.qualifiedCalleeOf u (u.tree.spokenId n) =
    Python.qualifiedCalleeOf u.withoutComments n := by
  have hle := Nat.succ_le_succ u.tree.size_withoutComments_le
  rw [Python.qualifiedCalleeOf, h.qualifiedCalleeWithin, Python.qualifiedCalleeWithin,
    (finitary_qualifiedCalleeBy u.withoutComments).within_of_le hle]
  rfl

theorem ends_of_isComment {c : NodeId} (hc : u.tree.isComment c = true) (steps : Nat) :
    (Python.qualifiedCalleeWithin u (steps + 1) c).ends = true := by
  have hfunction : u.tree.child? c "function" = none := by
    rw [child?, h.extras.children_eq_nil hc, List.find?_nil]
  simp [Python.qualifiedCalleeWithin, Answer.within, Python.qualifiedCalleeBy,
    Python.invokedObjectTypeBy, hfunction]

theorem declaredType? (s : Symbol) : Python.declaredType? u (s.renumber u.tree.spokenId) =
    Python.declaredType? u.withoutComments s :=
  congrArg Answer.toOption (h.declaredTypeBy h.qualifiedCalleeOf s)

theorem invokedObjectType? (site : Site) :
    Python.invokedObjectType? u (site.renumber u.tree.spokenId) =
      Python.invokedObjectType? u.withoutComments site :=
  congrArg Answer.toOption (h.invokedObjectTypeBy h.qualifiedCalleeOf site)

theorem parameterTypes (site : Site) : Python.parameterTypes u (site.renumber u.tree.spokenId) =
    Python.parameterTypes u.withoutComments site := by
  have hargument (n : NodeId) : argumentTypeOf u (u.tree.spokenId n) =
      argumentTypeOf u.withoutComments n := by
    simp only [argumentTypeOf, kind_spoken, h.valueTypeBy h.qualifiedCalleeOf]
  simp [Python.parameterTypes, parameterTypesOf, h.arguments, hargument]

theorem acceptsArity (n : NodeId) (arity : Nat) : Python.acceptsArity u (u.tree.spokenId n) arity =
    Python.acceptsArity u.withoutComments n arity := by
  simp [Python.acceptsArity, h.methodParameters, List.countP_map, Function.comp_def]

theorem ownerClass? (call object : NodeId) :
    Python.ownerClass? u (u.tree.spokenId call) (u.tree.spokenId object) =
      (Python.ownerClass? u.withoutComments call object).map u.tree.spokenId := by
  have htype := h.invokedObjectType? (.invocation call)
  rw [Site.renumber_invocation] at htype
  simp only [Python.ownerClass?, kind_spoken, text_spoken, h.enclosingClass?, htype,
    h.moduleDefinition?]
  split
  · rfl
  · simp only [Option.bind_eq_bind, Option.map_bind, Function.comp_def]
    rfl

theorem methodDefinition? (site : Site) :
    Python.methodDefinition? u (site.renumber u.tree.spokenId) =
      (Python.methodDefinition? u.withoutComments site).map u.tree.spokenId := by
  cases site with
  | invocation n =>
    have hname := h.methodName? (.invocation n)
    have harguments := congrArg List.length (h.arguments (.invocation n))
    rw [List.length_map] at harguments
    rw [Site.renumber_invocation] at hname harguments ⊢
    simp only [Python.methodDefinition?, hname, harguments, child?_spoken h.extras,
      Option.bind_eq_bind, Option.bind_map, Option.map_bind, Function.comp_def, kind_spoken,
      CompilationUnit.imports_withoutComments h.extras, h.moduleDefinition?]
    refine congrArg (Option.bind _) (funext fun name =>
      congrArg (Option.bind _) (funext fun function => ?_))
    split
    · split
      · rfl
      · simp [h.acceptsArity, Option.map_bind]
    · have hmethod (owner : NodeId) := h.definitionNamed? name "function_definition" (some owner)
      simp only [Option.map_some] at hmethod
      simp [h.ownerClass?, hmethod, h.acceptsArity, Option.bind_map, Option.map_bind]
    · rfl
  | _ n => rfl

theorem methodMatcher? (n : NodeId) : Python.methodMatcher? u (u.tree.spokenId n) =
    Python.methodMatcher? u.withoutComments n := by
  simp only [Python.methodMatcher?, child?_spoken h.extras, Option.bind_eq_bind, Option.map_map,
    Function.comp_def, text_spoken, h.isMethod, h.enclosingClass?, h.classType,
    h.methodParameters, List.map_map]
  rfl

end CommentsApart
end Python
end CryptoUsage
