import CryptoUsage.FrontEnd.JavaExpressions
import CryptoUsage.Proofs.Comments.JavaScopes

/-!
# Java expressions without the comments

The front end tells an analysis what shape an expression has, what is a site, and where variables
get their values.  All of that is the same in a unit and in the unit without its comments.

## What is here

* Shapes.  `expression` goes through the kinds of expressions.  Literals are read from the text of
  a node (`literal?_spoken`); names and accesses come from `Proofs/Comments/JavaScopes`
  (`identifierExpression`, `fieldExpression`).  In the creation of an array, dimensions and
  initializers are picked from the children and the rank is summed up over them; a comment is
  neither and adds nothing (`rankOf_of_isComment`, `arrayCreation`).
* Sites.  A comment is none (`site?_of_isComment`), any other node is one if it was, and its
  arguments, receiver and name are the same (`arguments`, `receiver?`, `methodName?`).
* Values.  Upwards, an assignment is found along the ancestors (`assignedSymbolFrom?`, by
  induction on them).  Downwards, the assignments to a variable are those in its scope
  (`assignments`), and the values that a method returns are found by a walk that stops at inner
  declarations (`methodReturns`).  For both walks it is enough to look at one node, because
  `filterMap_spoken` and `filter_spoken` take care of the rest.
* Enums: the parameters of the constructor and the name of a constant.
-/

set_option autoImplicit false

namespace CryptoUsage
namespace Java
namespace CommentsApart

open SyntaxTree

variable {u : CompilationUnit}

/-! ## Shapes -/

@[simp] theorem literal?_spoken (n : NodeId) :
    literal? u (u.tree.spokenId n) = literal? u.withoutComments n := by
  simp only [literal?, isIn_spoken, kind_spoken, text_spoken]

variable (h : CommentsApart u)
include h

theorem dimensionSize? (n : NodeId) : Java.dimensionSize? u (u.tree.spokenId n) =
    (Java.dimensionSize? u.withoutComments n).map u.tree.spokenId := by
  simp [Java.dimensionSize?, h.expressionsOf, List.find?_map, Function.comp_def]

theorem rankOf (n : NodeId) :
    Java.rankOf u (u.tree.spokenId n) = Java.rankOf u.withoutComments n := by
  simp only [Java.rankOf, kind_spoken, h.bracketCount]

omit h in
theorem rankOf_of_isComment {c : NodeId} (hc : u.tree.isComment c = true) :
    Java.rankOf u c = 0 := by
  unfold Java.rankOf
  split
  case h_1 hkind | h_2 hkind =>
    exact absurd hkind (kind_ne_of_isComment hc (by decide))
  · rfl

theorem arrayCreation (n : NodeId) : Java.arrayCreation u (u.tree.spokenId n) =
    (Java.arrayCreation u.withoutComments n).renumber u.tree.spokenId := by
  have hnamed := namedChildren_spoken h.extras n
  have hdimensions := filter_spoken (p := fun c => u.tree.kind c == "dimensions_expr") hnamed
    fun c hc => kind_beq_of_isComment hc (by decide)
  have hinitializers := filter_spoken (p := fun c => u.tree.kind c == "array_initializer") hnamed
    fun c hc => kind_beq_of_isComment hc (by decide)
  have hrank := foldl_spoken (f := fun rank part => rank + Java.rankOf u part) hnamed
    (fun rank c hc => by rw [rankOf_of_isComment hc, Nat.add_zero]) 0
  simp only [Java.arrayCreation, kind_spoken, h.expressionsOf, List.length_map, hdimensions,
    hinitializers, hrank, h.rankOf, List.filterMap_map, List.getLast?_map, Option.map_map,
    Function.comp_def, h.dimensionSize?]
  split
  · rfl
  · simp [Expression.renumber, List.map_filterMap]

theorem identifierExpression {n : NodeId}
    (hkind : u.tree.withoutComments.kind n = "identifier") :
    Java.identifierExpression u (u.tree.spokenId n) =
      (Java.identifierExpression u.withoutComments n).renumber u.tree.spokenId := by
  simp only [Java.identifierExpression, h.resolveIdentifier? hkind]
  cases Java.resolveIdentifier? u.withoutComments n with
  | none => rfl
  | some symbol =>
    simp only [Option.map_some, Symbol.kind_renumber, Symbol.declaration_renumber,
      h.enclosingType?]
    split
    · cases Java.enclosingType? u.withoutComments symbol.declaration <;> rfl
    · rfl

theorem fieldExpression (n : NodeId) : Java.fieldExpression u (u.tree.spokenId n) =
    (Java.fieldExpression u.withoutComments n).renumber u.tree.spokenId := by
  simp only [Java.fieldExpression, h.enumSelection?, child?_spoken h.extras]
  cases Java.enumSelection? u.withoutComments n with
  | some selection => rfl
  | none =>
    cases u.tree.withoutComments.child? n "object" with
    | none => rfl
    | some object =>
      cases u.tree.withoutComments.child? n "field" with
      | none => rfl
      | some field =>
        simp only [Option.map_none, Option.map_some, kind_spoken, text_spoken, h.thisField?,
          h.staticMember?]
        by_cases hobject : u.tree.withoutComments.kind object = "this"
        · rw [if_pos hobject, if_pos hobject]
          cases Java.thisField? u.withoutComments (u.tree.withoutComments.text field) n <;> rfl
        · rw [if_neg hobject, if_neg hobject]
          cases Java.staticMember? u.withoutComments object
            (u.tree.withoutComments.text field) <;> rfl

theorem unaryExpression (n : NodeId) : Java.unaryExpression u (u.tree.spokenId n) =
    (Java.unaryExpression u.withoutComments n).renumber u.tree.spokenId := by
  simp only [Java.unaryExpression, child?_spoken h.extras, map_text_spoken]
  cases u.tree.withoutComments.child? n "operand" with
  | none => rfl
  | some operand =>
    simp only [Option.map_some, literal?_spoken]
    split <;> rfl

omit h in
theorem wrapped (inner : Option NodeId) : Java.wrapped (inner.map u.tree.spokenId) =
    (Java.wrapped inner).renumber u.tree.spokenId := by
  cases inner <;> rfl

theorem expression (n : NodeId) : Java.expression u (u.tree.spokenId n) =
    (Java.expression u.withoutComments n).renumber u.tree.spokenId := by
  simp only [Java.expression, literal?_spoken, kind_spoken, h.fieldExpression, h.arrayCreation,
    h.unaryExpression, h.expressionsOf, List.head?_map, child?_spoken h.extras, wrapped]
  cases literal? u.withoutComments n with
  | some value => rfl
  | none =>
    simp only
    split
    · next hkind => exact h.identifierExpression hkind
    all_goals rfl

/-! ## Sites -/

theorem site? (n : NodeId) : Java.site? u (u.tree.spokenId n) =
    (Java.site? u.withoutComments n).map (Site.renumber u.tree.spokenId) := by
  simp only [Java.site?, kind_spoken, h.enumSelection?, Option.map_map]
  split <;> first | rfl | skip
  cases Java.enumSelection? u.withoutComments n <;> rfl

omit h in
theorem site?_of_isComment {c : NodeId} (hc : u.tree.isComment c = true) :
    Java.site? u c = none := by
  unfold Java.site?
  split
  case h_1 hkind | h_2 hkind | h_3 hkind =>
    exact absurd hkind (kind_ne_of_isComment hc (by decide))
  · rfl

theorem argumentsOf (n : NodeId) : Java.argumentsOf u (u.tree.spokenId n) =
    (Java.argumentsOf u.withoutComments n).map u.tree.spokenId := by
  simp only [Java.argumentsOf, child?_spoken h.extras]
  cases u.tree.withoutComments.child? n "arguments" with
  | none => rfl
  | some list => exact h.expressionsOf list

theorem arguments (site : Site) : Java.arguments u (site.renumber u.tree.spokenId) =
    (Java.arguments u.withoutComments site).map u.tree.spokenId := by
  cases site with
  | enumSelection n => rfl
  | _ n => exact h.argumentsOf n

theorem receiver? (site : Site) : Java.receiver? u (site.renumber u.tree.spokenId) =
    (Java.receiver? u.withoutComments site).map u.tree.spokenId := by
  cases site with
  | invocation n => exact child?_spoken h.extras n "object"
  | _ n => rfl

theorem methodName? (site : Site) : Java.methodName? u (site.renumber u.tree.spokenId) =
    Java.methodName? u.withoutComments site := by
  cases site with
  | invocation n => simp [Java.methodName?, child?_spoken h.extras, Function.comp_def]
  | _ n => rfl

/-! ## Where variables get their values -/

theorem declaredSymbol? (n : NodeId) : Java.declaredSymbol? u (u.tree.spokenId n) =
    (Java.declaredSymbol? u.withoutComments n).map (Symbol.renumber u.tree.spokenId) := by
  simp only [Java.declaredSymbol?, child?_spoken h.extras, parent?_spoken h.extras,
    Option.map_map, Function.comp_def, text_spoken, kind_spoken]
  rfl

theorem assignmentTarget? (n : NodeId) : Java.assignmentTarget? u (u.tree.spokenId n) =
    (Java.assignmentTarget? u.withoutComments n).map (Symbol.renumber u.tree.spokenId) := by
  simp only [Java.assignmentTarget?, kind_spoken]
  split
  · next hkind => exact h.resolveIdentifier? hkind
  · simp [child?_spoken h.extras, Option.bind_map, Option.map_bind, h.thisField?]
  · rfl

theorem isPlainAssignment (n : NodeId) : Java.isPlainAssignment u (u.tree.spokenId n) =
    Java.isPlainAssignment u.withoutComments n := by
  simp [Java.isPlainAssignment, child?_spoken h.extras, Function.comp_def]

theorem assignedSymbolFrom? (n : NodeId) (above : List NodeId) :
    Java.assignedSymbolFrom? u (u.tree.spokenId n) (above.map u.tree.spokenId) =
      (Java.assignedSymbolFrom? u.withoutComments n above).map
        (Symbol.renumber u.tree.spokenId) := by
  induction above generalizing n with
  | nil => rfl
  | cons parent above ih =>
    have hright : ((u.tree.withoutComments.child? parent "right").map u.tree.spokenId ==
        some (u.tree.spokenId n)) = (u.tree.withoutComments.child? parent "right" == some n) := by
      rw [Bool.eq_iff_iff, beq_iff_eq, beq_iff_eq, map_spokenId_eq_some]
    simp only [Java.assignedSymbolFrom?, List.map_cons, kind_spoken, child?_spoken h.extras,
      map_spokenId_eq_some, h.isPlainAssignment, hright, h.declaredSymbol?, Option.bind_map,
      Function.comp_def, h.assignmentTarget?]
    split
    · exact ih parent
    · exact ih parent
    · split <;> rfl
    · split
      · exact Option.map_bind.symm
      · rfl
    · rfl

theorem assignedSymbol? (n : NodeId) : Java.assignedSymbol? u (u.tree.spokenId n) =
    (Java.assignedSymbol? u.withoutComments n).map (Symbol.renumber u.tree.spokenId) := by
  rw [Java.assignedSymbol?, ancestors_spoken h.extras]
  exact h.assignedSymbolFrom? n _

theorem initializer? (s : Symbol) : Java.initializer? u (s.renumber u.tree.spokenId) =
    (Java.initializer? u.withoutComments s).map u.tree.spokenId := by
  simp only [Java.initializer?, Symbol.declaration_renumber, kind_spoken, child?_spoken h.extras]
  split <;> rfl

theorem valueAssignedTo? (s : Symbol) (n : NodeId) :
    Java.valueAssignedTo? u (s.renumber u.tree.spokenId) (u.tree.spokenId n) =
      (Java.valueAssignedTo? u.withoutComments s n).map u.tree.spokenId := by
  simp [Java.valueAssignedTo?, h.isPlainAssignment, child?_spoken h.extras, Option.bind_map,
    Option.map_bind, h.assignmentTarget?, Symbol.same_renumber u.tree.spokenId_strictMono.injective]

theorem assignments (s : Symbol) : Java.assignments u (s.renumber u.tree.spokenId) =
    (Java.assignments u.withoutComments s).map u.tree.spokenId := by
  rw [Java.assignments, h.symbolScope, filterMap_spoken (preorder_spoken h.extras _),
    Java.assignments, List.map_filterMap]
  · exact List.filterMap_congr fun n _ => h.valueAssignedTo? s n
  · intro c hc
    have hplain : Java.isPlainAssignment u c = false := by
      rw [Java.isPlainAssignment, kind_beq_of_isComment hc (by decide), Bool.false_and]
    rw [Java.valueAssignedTo?, hplain]
    rfl

theorem methodReturns (n : NodeId) : Java.methodReturns u (u.tree.spokenId n) =
    (Java.methodReturns u.withoutComments n).map u.tree.spokenId := by
  have hinside : (fun n => mayReturnInside u (u.tree.spokenId n)) =
      mayReturnInside u.withoutComments := by
    funext n
    simp only [mayReturnInside, kind_spoken]
  simp only [Java.methodReturns, child?_spoken h.extras]
  cases u.tree.withoutComments.child? n "body" with
  | none => rfl
  | some body =>
    simp only [Option.map_some]
    rw [filter_spoken (preorderWhile_spoken h.extras _ body) fun c hc =>
      kind_beq_of_isComment hc (by decide), hinside]
    simp [h.expressionsOf, List.filterMap_map, List.map_filterMap]

/-! ## Enums -/

theorem enumConstructorParameters (n : NodeId) :
    Java.enumConstructorParameters u (u.tree.spokenId n) =
      Java.enumConstructorParameters u.withoutComments n := by
  rw [Java.enumConstructorParameters, filter_spoken (h.typeMembers n) fun c hc =>
    kind_beq_of_isComment hc (by decide)]
  simp [Java.enumConstructorParameters, h.methodParameters, Function.comp_def]

theorem constantName (n : NodeId) :
    Java.constantName u (u.tree.spokenId n) = Java.constantName u.withoutComments n := by
  simp [Java.constantName, child?_spoken h.extras, Function.comp_def]

end CommentsApart
end Java
end CryptoUsage
