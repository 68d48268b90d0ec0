import CryptoUsage.FrontEnd.PythonExpressions
import CryptoUsage.Proofs.Comments.PythonScopes
import CryptoUsage.Proofs.FrontEnd.Nodes

/-!
# Python expressions without the comments

Shapes of expressions, sites, and the places where variables get their values are the same in a
unit of Python and in the unit without its comments.

## What is here

* Literals.  A string literal is put together from its parts, and comments among them are passed
  over (`stringParts?_filter`), but not in a string that is written in several pieces: each piece
  has to be a literal itself, and a comment is none.  So for these it is used that there is no
  comment between the pieces (`stringValueWithin?`).  The integers go down through signs and
  parentheses (`signedIntWithin?`).  Both walks get as many steps as the tree has nodes, which are
  more with the comments; `walk_size_spoken` says that this makes no difference (`stringValue?`,
  `signedInt?`).
* Shapes.  `expression` goes through the kinds, with accesses and signed numbers on their own
  (`attributeExpression`, `unaryExpression`).
* Sites.  Only calls are sites; arguments, receivers and names are found by slots (`arguments`,
  `receiver?`, `methodName?`).
* Values.  An assignment is found upwards by induction on the ancestors (`assignedSymbolFrom?`).
  The values that are assigned to a variable and those that a function returns are found by walks
  downwards, for which it is enough to look at one node (`valueAssignedTo?`, `assignments`,
  `methodReturns`).
-/

set_option autoImplicit false

namespace CryptoUsage
namespace Python
namespace CommentsApart

open SyntaxTree

variable {u : CompilationUnit} (h : CommentsApart u)
include h

/-! ## Literals -/

omit h in
/-- In a string of one part, comments are passed over. -/
theorem stringParts?_filter (parts : List NodeId) :
    stringParts? u (parts.filter fun c => !u.tree.isComment c) = stringParts? u parts := by
  induction parts with
  | nil => rfl
  | cons part parts ih =>
    cases hcomment : u.tree.isComment part with
    | false =>
      rw [List.filter_cons_of_pos (by simp [hcomment])]
      simp only [stringParts?, ih]
    | true =>
      rw [List.filter_cons_of_neg (by simp [hcomment]), ih, stringParts?]
      split
      case h_1 hkind | h_2 hkind | h_3 hkind =>
        exact absurd hkind (kind_ne_of_isComment hcomment (by decide))
      · rfl

omit h in
theorem stringParts?_map (parts : List NodeId) :
    stringParts? u (parts.map u.tree.spokenId) = stringParts? u.withoutComments parts := by
  induction parts with
  | nil => rfl
  | cons part parts ih => simp only [List.map_cons, stringParts?, kind_spoken, text_spoken, ih]

theorem stringValueWithin? (steps : Nat) (n : NodeId) :
    Python.stringValueWithin? u steps (u.tree.spokenId n) =
      Python.stringValueWithin? u.withoutComments steps n := by
  induction steps generalizing n with
  | zero => rfl
  | succ steps ih =>
    simp only [Python.stringValueWithin?, kind_spoken]
    split
    · next hkind =>
      rw [← kind_spoken] at hkind
      have hlt := u.tree.lt_size_of_kind_ne (n := u.tree.spokenId n) (by rw [hkind]; decide)
      rw [namedChildren_spoken_of_none h.extras (h.concatenated _ hlt hkind), List.mapM_map]
      simp only [Function.comp_def, ih]
    · rw [← stringParts?_filter, namedChildren_spoken h.extras, stringParts?_map]
    · rfl

theorem stringValue? (n : NodeId) :
    Python.stringValue? u (u.tree.spokenId n) = Python.stringValue? u.withoutComments n := by
  rw [Python.stringValue?, h.stringValueWithin?]
  refine walk_size_spoken h.extras (fun a b n hab => ?_) n
  simp only [Python.stringValueWithin?]
  split
  · have hmapM (f : NodeId → Option String) (l : List NodeId) : l.mapM f = (l.map f).mapM id := by
      rw [List.mapM_map]
      rfl
    have hparts := List.map_congr_left fun c hc =>
      hab c (lt_of_mem_namedChildren _ hc) (lt_size_of_mem_namedChildren hc)
    rw [hmapM, hparts, ← hmapM]
  · rfl
  · rfl

theorem signedIntWithin? (steps : Nat) (n : NodeId) :
    Python.signedIntWithin? u steps (u.tree.spokenId n) =
      Python.signedIntWithin? u.withoutComments steps n := by
  induction steps generalizing n with
  | zero => rfl
  | succ steps ih =>
    simp only [Python.signedIntWithin?, kind_spoken, text_spoken, child?_spoken h.extras,
      map_text_spoken, Option.bind_eq_bind, Option.bind_map, Function.comp_def, ih]

theorem signedInt? (n : NodeId) :
    Python.signedInt? u (u.tree.spokenId n) = Python.signedInt? u.withoutComments n := by
  rw [Python.signedInt?, h.signedIntWithin?]
  refine walk_size_spoken h.extras (fun a b n hab => ?_) n
  simp only [Python.signedIntWithin?]
  split
  · rfl
  · refine congrArg _ (funext fun _ => Option.bind_congr fun c hc => ?_)
    rw [hab c (parent?_lt _ (parent?_of_child? hc).1) (lt_size_of_child? hc)]
  · rfl

/-! ## Shapes -/

omit h in
theorem literalExpression_renumber (value : Option Constant) :
    (literalExpression value).renumber u.tree.spokenId = literalExpression value := by
  cases value <;> rfl

theorem attributeExpression (n : NodeId) : Python.attributeExpression u (u.tree.spokenId n) =
    (Python.attributeExpression u.withoutComments n).renumber u.tree.spokenId := by
  have hfield : ((Python.selfAttribute? u (u.tree.spokenId n)).bind fun name =>
      (Python.enclosingClass? u (u.tree.spokenId n)).bind (Python.fieldNamed? u name)) =
      ((Python.selfAttribute? u.withoutComments n).bind fun name =>
        (Python.enclosingClass? u.withoutComments n).bind
          (Python.fieldNamed? u.withoutComments name)).map (Symbol.renumber u.tree.spokenId) := by
    simp only [h.selfAttribute?, h.enclosingClass?, Option.bind_map, Option.map_bind,
      Function.comp_def, h.fieldNamed?]
  simp only [Python.attributeExpression, Option.bind_eq_bind, hfield, child?_spoken h.extras]
  cases (Python.selfAttribute? u.withoutComments n).bind fun name =>
      (Python.enclosingClass? u.withoutComments n).bind
        (Python.fieldNamed? u.withoutComments name) with
  | some symbol => rfl
  | none =>
    cases u.tree.withoutComments.child? n "object" with
    | none => rfl
    | some object =>
      cases u.tree.withoutComments.child? n "attribute" with
      | none => rfl
      | some name => simp [Expression.renumber]

theorem unaryExpression (n : NodeId) : Python.unaryExpression u (u.tree.spokenId n) =
    (Python.unaryExpression u.withoutComments n).renumber u.tree.spokenId := by
  simp only [Python.unaryExpression, child?_spoken h.extras, map_text_spoken, h.signedInt?]
  cases u.tree.withoutComments.child? n "argument" with
  | none => rfl
  | some argument =>
    simp only [Option.map_some]
    split
    · exact (literalExpression_renumber _).symm
    all_goals rfl

theorem expression (n : NodeId) : Python.expression u (u.tree.spokenId n) =
    (Python.expression u.withoutComments n).renumber u.tree.spokenId := by
  simp only [Python.expression, kind_spoken, h.signedInt?, h.stringValue?, h.resolveIdentifier?,
    h.attributeExpression, h.unaryExpression, h.expressionsOf, List.length_map, List.head?_map]
  split
  case h_1 | h_2 | h_3 => exact (literalExpression_renumber _).symm
  case h_6 => cases Python.resolveIdentifier? u.withoutComments n <;> rfl
  case h_11 => cases (Python.expressionsOf u.withoutComments n).head? <;> rfl
  all_goals rfl

/-! ## Sites -/

omit h in
theorem site? (n : NodeId) : Python.site? u (u.tree.spokenId n) =
    (Python.site? u.withoutComments n).map (Site.renumber u.tree.spokenId) := by
  simp only [Python.site?, kind_spoken]
  split <;> rfl

omit h in
theorem site?_of_isComment {c : NodeId} (hc : u.tree.isComment c = true) :
    Python.site? u c = none := if_neg (kind_ne_of_isComment hc (by decide))

theorem arguments (site : Site) : Python.arguments u (site.renumber u.tree.spokenId) =
    (Python.arguments u.withoutComments site).map u.tree.spokenId := by
  cases site with
  | invocation n =>
    simp only [Python.arguments, Site.renumber_invocation, Python.argumentsOf,
      child?_spoken h.extras]
    cases u.tree.withoutComments.child? n "arguments" with
    | none => rfl
    | some list =>
      simp only [Option.map_some, h.expressionsOf, List.filterMap_map, Function.comp_def,
        kind_spoken, child?_spoken h.extras, List.map_filterMap]
      refine List.filterMap_congr fun argument _ => ?_
      split <;> rfl
  | _ n => rfl

theorem receiver? (site : Site) : Python.receiver? u (site.renumber u.tree.spokenId) =
    (Python.receiver? u.withoutComments site).map u.tree.spokenId := by
  cases site with
  | invocation n =>
    simp [Python.receiver?, child?_spoken h.extras, Option.bind_map, Option.map_bind]
  | _ n => rfl

theorem methodName? (site : Site) : Python.methodName? u (site.renumber u.tree.spokenId) =
    Python.methodName? u.withoutComments site := by
  cases site with
  | invocation n =>
    simp [Python.methodName?, child?_spoken h.extras, Option.bind_map, Function.comp_def]
  | _ n => rfl

/-! ## Where variables get their values -/

theorem assignmentTarget? (n : NodeId) : Python.assignmentTarget? u (u.tree.spokenId n) =
    (Python.assignmentTarget? u.withoutComments n).map (Symbol.renumber u.tree.spokenId) := by
  simp only [Python.assignmentTarget?, kind_spoken]
  split
  · exact h.resolveIdentifier? n
  · simp [h.selfAttribute?, h.enclosingClass?, Option.bind_map, Option.map_bind, h.fieldNamed?]
  · rfl

theorem assignedSymbolFrom? (n : NodeId) (above : List NodeId) :
    Python.assignedSymbolFrom? u (u.tree.spokenId n) (above.map u.tree.spokenId) =
      (Python.assignedSymbolFrom? u.withoutComments n above).map
        (Symbol.renumber u.tree.spokenId) := by
  induction above generalizing n with
  | nil => rfl
  | cons parent above ih =>
    simp only [Python.assignedSymbolFrom?, List.map_cons, kind_spoken, child?_spoken h.extras,
      map_spokenId_eq_some, Option.bind_map, Function.comp_def, h.assignmentTarget?]
    split
    · exact ih parent
    · split
      · exact Option.map_bind.symm
      · rfl
    · rfl

theorem assignedSymbol? (n : NodeId) : Python.assignedSymbol? u (u.tree.spokenId n) =
    (Python.assignedSymbol? u.withoutComments n).map (Symbol.renumber u.tree.spokenId) := by
  rw [Python.assignedSymbol?, ancestors_spoken h.extras]
  exact h.assignedSymbolFrom? n _

theorem initializer? (s : Symbol) : Python.initializer? u (s.renumber u.tree.spokenId) =
    (Python.initializer? u.withoutComments s).map u.tree.spokenId := by
  have hleft (n : NodeId) : ((u.tree.withoutComments.child? n "left").map u.tree.spokenId ==
      some (u.tree.spokenId s.declaration)) =
      (u.tree.withoutComments.child? n "left" == some s.declaration) := by
    rw [Bool.eq_iff_iff, beq_iff_eq, beq_iff_eq, map_spokenId_eq_some]
  simp only [Python.initializer?, Symbol.declaration_renumber, parent?_spoken h.extras,
    Option.bind_eq_bind, Option.bind_map, Option.map_bind, Function.comp_def, kind_spoken,
    child?_spoken h.extras, hleft]

theorem valueAssignedTo? (s : Symbol) (n : NodeId) :
    Python.valueAssignedTo? u (s.renumber u.tree.spokenId) (u.tree.spokenId n) =
      (Python.valueAssignedTo? u.withoutComments s n).map u.tree.spokenId := by
  simp [Python.valueAssignedTo?, child?_spoken h.extras, Option.bind_map, Option.map_bind,
    h.assignmentTarget?, Symbol.same_renumber u.tree.spokenId_strictMono.injective]

theorem assignments (s : Symbol) : Python.assignments u (s.renumber u.tree.spokenId) =
    (Python.assignments u.withoutComments s).map u.tree.spokenId := by
  rw [Python.assignments, h.symbolScope, filterMap_spoken (preorder_spoken h.extras _),
    Python.assignments, List.map_filterMap]
  · exact List.filterMap_congr fun n _ => h.valueAssignedTo? s n
  · intro c hc
    rw [Python.valueAssignedTo?, kind_beq_of_isComment hc (by decide)]
    rfl

theorem methodReturns (n : NodeId) : Python.methodReturns u (u.tree.spokenId n) =
    (Python.methodReturns u.withoutComments n).map u.tree.spokenId := by
  have hinside : (fun n => mayReturnInside u (u.tree.spokenId n)) =
      mayReturnInside u.withoutComments := by
    funext n
    simp only [mayReturnInside, isScopeBoundary_spoken, kind_spoken]
  simp only [Python.methodReturns, child?_spoken h.extras]
  cases u.tree.withoutComments.child? n "body" with
  | none => rfl
  | some body =>
    simp only [Option.map_some]
    rw [filter_spoken (preorderWhile_spoken h.extras _ body) fun c hc =>
      kind_beq_of_isComment hc (by decide), hinside]
    simp [h.expressionsOf, List.filterMap_map, List.map_filterMap]

end CommentsApart
end Python
end CryptoUsage
