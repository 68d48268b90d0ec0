import CryptoUsage.FrontEnd.JavaTypes
import CryptoUsage.Proofs.Comments.JavaExpressions
import CryptoUsage.Proofs.FrontEnd.TypeQuestions

/-!
# Types of Java expressions without the comments

The type of an expression may be asked for on the way to the type of another one, and it may be
that this never ends.  So the queries are functions of the answers they ask for themselves
(`Program/Answer`), and what is shown here is shown of one step: if two ways to answer agree up to
the numbers, so do the questions that are made from them.

## What is here

* Declared types.  The type of a parameter or a variable is written down, or it is that of an
  initializer (`variableTypeBy`, `declaredTypeBy`).
* The type of a receiver (`receiverTypeBy`): a variable, `this`, `super`, the name of a class, or
  whatever else an expression is.  Behind `super` stands the class that is extended, and that is
  the first child of the clause, so no comment may come first (`head?_superclass`).
* The method that a call goes to (`methodDefinitionBy`), whose declared type is that of the call.
* `expressionTypeBy` is one step made of these, and `expressionTypeWithin` any number of them.
  With the comments a query has more steps, for there are more nodes.  By
  `Proofs/FrontEnd/TypeQuestions` the steps for the smaller tree are already enough, and so the
  answers agree (`expressionTypeOf`), endless ones included.

What an analysis asks, from `declaredType?` to `methodMatcher?`, is then a matter of rewriting.
The type of a comment itself is never endless (`ends_of_isComment`); this is needed when all
questions of a unit are to end.
-/

set_option autoImplicit false

namespace CryptoUsage

namespace Java
namespace CommentsApart

open SyntaxTree

variable {u : CompilationUnit} (h : CommentsApart u)
include h

/-! ## Declared types -/

theorem objectTypeAt (n : NodeId) :
    Java.objectTypeAt u (u.tree.spokenId n) = Java.objectTypeAt u.withoutComments n := by
  rw [Java.objectTypeAt, h.typeText, h.objectTypeNamed, Java.objectTypeAt]

theorem typeOfSlot? (n : NodeId) :
    Java.typeOfSlot? u (u.tree.spokenId n) = Java.typeOfSlot? u.withoutComments n := by
  simp only [Java.typeOfSlot?, child?_spoken h.extras, Option.map_map, Function.comp_def,
    h.objectTypeAt]

theorem dimensionedType (declaration typeNode : NodeId) :
    Java.dimensionedType u (u.tree.spokenId declaration) (u.tree.spokenId typeNode) =
      Java.dimensionedType u.withoutComments declaration typeNode := by
  simp only [Java.dimensionedType, child?_spoken h.extras, Option.map_map, Function.comp_def,
    h.bracketCount, h.typeText, h.objectTypeNamed]

theorem parameterType? (n : NodeId) :
    Java.parameterType? u (u.tree.spokenId n) = Java.parameterType? u.withoutComments n := by
  simp only [Java.parameterType?, kind_spoken, child?_spoken h.extras, Option.map_map,
    Function.comp_def, h.dimensionedType]
  split
  · rfl
  · next hkind =>
    rw [← kind_spoken] at hkind
    have hlt := u.tree.lt_size_of_kind_ne (n := u.tree.spokenId n) (by rw [hkind]; decide)
    rw [find?_spoken_of_found (namedChildren_spoken h.extras n) (h.spread _ hlt hkind)]
    simp [Function.comp_def, h.typeText, h.objectTypeNamed]
  · rfl

section Asking

variable {f f' : NodeId → Answer ObjectType} (hf : ∀ n, f (u.tree.spokenId n) = f' n)
include hf

theorem variableTypeBy (n : NodeId) : Java.variableTypeBy u f (u.tree.spokenId n) =
    Java.variableTypeBy u.withoutComments f' n := by
  simp only [Java.variableTypeBy, parent?_spoken h.extras, Answer.bind_eq_bind,
    Answer.liftM_eq_ofOption, Answer.ofOption_map, Answer.bind_map, kind_spoken,
    child?_spoken h.extras, h.typeText, h.dimensionedType, h.typeOfSlot?, hf]

theorem declaredTypeBy (s : Symbol) : Java.declaredTypeBy u f (s.renumber u.tree.spokenId) =
    Java.declaredTypeBy u.withoutComments f' s := by
  simp only [Java.declaredTypeBy, Symbol.kind_renumber, Symbol.declaration_renumber,
    h.enclosingType?, Option.map_map, Function.comp_def, h.declaredObjectType, h.parameterType?,
    h.variableTypeBy hf]

omit hf in
theorem leftmostWithin? (steps : Nat) (n : NodeId) :
    Java.leftmostWithin? u steps (u.tree.spokenId n) =
      (Java.leftmostWithin? u.withoutComments steps n).map u.tree.spokenId := by
  induction steps generalizing n with
  | zero => rfl
  | succ steps ih =>
    simp only [Java.leftmostWithin?, kind_spoken, child?_spoken h.extras, Option.bind_map,
      Function.comp_def, ih]
    split
    · exact Option.map_bind.symm
    · rfl

omit hf in
theorem qualifiedName? (n : NodeId) :
    Java.qualifiedName? u (u.tree.spokenId n) = Java.qualifiedName? u.withoutComments n := by
  have hsize : Java.leftmostWithin? u.withoutComments u.tree.size n =
      Java.leftmostWithin? u.withoutComments u.tree.withoutComments.size n := by
    refine walk_size_spoken h.extras (fun a b n hab => ?_) n
    simp only [Java.leftmostWithin?]
    split
    · refine Option.bind_congr fun c hc => hab c ?_ (lt_size_of_child? hc)
      exact parent?_lt _ (parent?_of_child? hc).1
    · rfl
  simp only [Java.qualifiedName?, h.leftmostWithin?, Option.bind_eq_bind, Option.bind_map,
    Function.comp_def, kind_spoken, h.isNoVariable, text_spoken, hsize]

omit hf in
theorem head?_superclass {owner clause : NodeId}
    (hclause : u.tree.withoutComments.child? owner "superclass" = some clause) :
    (u.tree.namedChildren (u.tree.spokenId clause)).head? =
      (u.tree.withoutComments.namedChildren clause).head?.map u.tree.spokenId := by
  have hchild := child?_spoken h.extras owner "superclass"
  rw [hclause] at hchild
  rw [namedChildren_spoken_of_none h.extras, List.head?_map]
  exact h.superclass _ (lt_size_of_child? hchild) (parent?_of_child? hchild).2

theorem receiverTypeBy (n : NodeId) : Java.receiverTypeBy u f (u.tree.spokenId n) =
    Java.receiverTypeBy u.withoutComments f' n := by
  simp only [Java.receiverTypeBy, kind_spoken, h.enclosingType?, Option.map_map,
    Function.comp_def, h.declaredObjectType, h.enumSelection?, h.expression, h.qualifiedName?, hf]
  split
  · rfl
  · simp only [Answer.bind_eq_bind, Answer.liftM_eq_ofOption, Answer.ofOption_map,
      Answer.bind_map, child?_spoken h.extras]
    congr 1
    funext owner
    cases hclause : u.tree.withoutComments.child? owner "superclass" with
    | none => rfl
    | some clause =>
      simp only [Answer.ofOption_some, Answer.known_bind, h.head?_superclass hclause,
        Answer.ofOption_map, Answer.bind_map, h.objectTypeAt]
  · next hkind =>
    simp only [h.resolveIdentifier? hkind, text_spoken, h.objectTypeNamed]
    cases Java.resolveIdentifier? u.withoutComments n with
    | none => rfl
    | some symbol => exact h.declaredTypeBy hf symbol
  · cases Java.enumSelection? u.withoutComments n with
    | some selection =>
      simp only [Option.map_some, Prod.map, h.declaredObjectType]
    | none =>
      simp only [Option.map_none]
      cases Java.expression u.withoutComments n with
      | «variable» symbol => exact h.declaredTypeBy hf symbol
      | _ => rfl
  · rfl

omit hf in
theorem methodInType? (name : String) (arity : Nat) (n : NodeId) :
    Java.methodInType? u name arity (u.tree.spokenId n) =
      (Java.methodInType? u.withoutComments name arity n).map u.tree.spokenId := by
  rw [Java.methodInType?, find?_spoken (h.typeMembers n)]
  · simp [Java.methodInType?, h.isNamedAs, h.methodParameters]
  · intro c hc
    rw [kind_beq_of_isComment hc (by decide), Bool.false_and, Bool.false_and]

theorem methodDefinitionBy (site : Site) :
    Java.methodDefinitionBy u f (site.renumber u.tree.spokenId) =
      (Java.methodDefinitionBy u.withoutComments f' site).map u.tree.spokenId := by
  cases site with
  | invocation n =>
    simp only [Java.methodDefinitionBy, Site.renumber_invocation, child?_spoken h.extras,
      Option.map_map, Function.comp_def, text_spoken, Answer.bind_eq_bind,
      Answer.liftM_eq_ofOption, Answer.map_bind]
    congr 1
    funext name
    rw [← Site.renumber_invocation, h.arguments, List.length_map]
    cases u.tree.withoutComments.child? n "object" with
    | none =>
      have htypes : (u.tree.ancestors (u.tree.spokenId n)).filter (isIn u .typeDeclaration) =
          ((u.tree.withoutComments.ancestors n).filter
            (isIn u.withoutComments .typeDeclaration)).map u.tree.spokenId := by
        simp [ancestors_spoken h.extras, List.filter_map, Function.comp_def]
      simp only [Option.map_none, htypes, List.findSome?_map, Function.comp_def, h.methodInType?,
        ← Answer.ofOption_map, List.map_findSome?]
    | some object =>
      simp only [Option.map_some, kind_spoken]
      by_cases hthis : u.tree.withoutComments.kind object = "this"
      · simp only [if_pos hthis, h.enclosingType?, Option.bind_map, Function.comp_def,
          h.methodInType?, ← Answer.ofOption_map, Option.map_bind]
      · simp only [if_neg hthis, h.receiverTypeBy hf, h.typeNamed?, Answer.ofOption_map,
          Answer.bind_map, Answer.map_bind, h.declaredObjectType, h.methodInType?]
        refine congrArg (Answer.bind _) (funext fun receiver =>
          congrArg (Answer.bind _) (funext fun owner => ?_))
        split <;> rfl
  | _ n => rfl

omit hf in
theorem arrayType? (n : NodeId) :
    Java.arrayType? u (u.tree.spokenId n) = Java.arrayType? u.withoutComments n := by
  simp only [Java.arrayType?, child?_spoken h.extras, Option.bind_eq_bind, Option.bind_map,
    Function.comp_def, h.expression, h.typeText, h.qualify]
  cases Java.expression u.withoutComments n <;> rfl

theorem expressionTypeBy (n : NodeId) : Java.expressionTypeBy u f (u.tree.spokenId n) =
    Java.expressionTypeBy u.withoutComments f' n := by
  have hmethod := h.methodDefinitionBy hf (.invocation n)
  rw [Site.renumber_invocation] at hmethod
  simp only [Java.expressionTypeBy, isIn_spoken, kind_spoken, hasSuffixLetter, text_spoken,
    h.receiverTypeBy hf, h.typeOfSlot?, h.arrayType?, h.expressionsOf, List.head?_map,
    child?_spoken h.extras, Answer.ofOption_map, Answer.bind_map, hf, hmethod]
  split
  · rfl
  · split
    · rfl
    · split
      case h_6 hkind =>
        rw [h.resolveIdentifier? hkind, Answer.ofOption_map, Answer.bind_map]
        simp only [h.declaredTypeBy hf]
      all_goals rfl

end Asking

/-! ## The questions of an analysis -/

theorem expressionTypeWithin (steps : Nat) (n : NodeId) :
    Java.expressionTypeWithin u steps (u.tree.spokenId n) =
      Java.expressionTypeWithin u.withoutComments steps n := by
  induction steps generalizing n with
  | zero => rfl
  | succ steps ih => exact h.expressionTypeBy ih n

/-- As many steps as there are nodes with the comments are enough without them. -/
theorem expressionTypeOf (n : NodeId) : Java.expressionTypeOf u (u.tree.spokenId n) =
    Java.expressionTypeOf u.withoutComments n := by
  have hle := Nat.succ_le_succ u.tree.size_withoutComments_le
  rw [Java.expressionTypeOf, h.expressionTypeWithin, Java.expressionTypeWithin,
    (finitary_expressionTypeBy u.withoutComments).within_of_le hle]
  rfl

omit h in
theorem ends_of_isComment {c : NodeId} (hc : u.tree.isComment c = true) (steps : Nat) :
    (Java.expressionTypeWithin u (steps + 1) c).ends = true := by
  have hnone (category : Category) (hcategory : (category.javaKinds.any fun kind =>
      "comment".toList.isSuffixOf kind.toList) = false) : isIn u category c = false :=
    contains_kind_of_isComment hc hcategory
  rw [Java.expressionTypeWithin, Answer.within, Java.expressionTypeBy, hnone _ (by decide),
    hnone _ (by decide)]
  simp only [Bool.false_eq_true, if_false]
  split <;> first
    | rfl
    | next hkind => exact absurd hkind (kind_ne_of_isComment hc (by decide))

theorem declaredType? (s : Symbol) : Java.declaredType? u (s.renumber u.tree.spokenId) =
    Java.declaredType? u.withoutComments s :=
  congrArg Answer.toOption (h.declaredTypeBy h.expressionTypeOf s)

theorem methodDefinition? (site : Site) :
    Java.methodDefinition? u (site.renumber u.tree.spokenId) =
      (Java.methodDefinition? u.withoutComments site).map u.tree.spokenId := by
  rw [Java.methodDefinition?, methodDefinitionOf, h.methodDefinitionBy h.expressionTypeOf,
    Answer.toOption_map]
  rfl

theorem invokedObjectType? (site : Site) :
    Java.invokedObjectType? u (site.renumber u.tree.spokenId) =
      Java.invokedObjectType? u.withoutComments site := by
  cases site with
  | invocation n =>
    simp only [Java.invokedObjectType?, invokedObjectTypeOf, Site.renumber_invocation,
      child?_spoken h.extras, h.enclosingType?, Option.map_map, Function.comp_def,
      h.declaredObjectType]
    cases u.tree.withoutComments.child? n "object" with
    | none => rfl
    | some object => exact congrArg _ (h.receiverTypeBy h.expressionTypeOf object)
  | construction n => simp [Java.invokedObjectType?, invokedObjectTypeOf, h.typeOfSlot?]
  | enumSelection n =>
    simp [Java.invokedObjectType?, invokedObjectTypeOf, h.enumSelection?, Function.comp_def,
      h.declaredObjectType]

theorem parameterTypes (site : Site) : Java.parameterTypes u (site.renumber u.tree.spokenId) =
    Java.parameterTypes u.withoutComments site := by
  simp [Java.parameterTypes, parameterTypesOf, h.arguments, h.expressionTypeOf]

theorem enumClassName? (site : Site) : Java.enumClassName? u (site.renumber u.tree.spokenId) =
    Java.enumClassName? u.withoutComments site := by
  cases site with
  | enumSelection n =>
    simp [Java.enumClassName?, h.enumSelection?, Function.comp_def, h.declaredObjectType]
  | _ n => rfl

theorem methodMatcher? (n : NodeId) : Java.methodMatcher? u (u.tree.spokenId n) =
    Java.methodMatcher? u.withoutComments n := by
  simp only [Java.methodMatcher?, h.enclosingType?, Option.bind_eq_bind, Option.bind_map,
    Function.comp_def, kind_spoken, child?_spoken h.extras, map_text_spoken, h.methodParameters,
    List.map_map, h.declaredType?, h.declaredObjectType]

end CommentsApart
end Java
end CryptoUsage
