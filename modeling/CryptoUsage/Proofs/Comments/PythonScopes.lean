import CryptoUsage.FrontEnd.PythonScopes
import CryptoUsage.Proofs.Comments.Unit
import CryptoUsage.Proofs.Renumbering.Unit
import Mathlib.Data.Option.Basic

/-!
# Scopes of Python variables without the comments

In Python a name is bound by a parameter, by an assignment in the function around it, or by one in
the module; `self.name` is bound by an assignment in the class.  The bindings are the same when
the comments are gone.

`Python.CommentsApart` lists what has to be known of comments: that they are extras, that they are
all of one kind, and that none stands in a string of several parts or first in parentheses.  At
the last two places the front end takes the children as they come; everywhere else it asks for a
kind or a slot, and then a comment is passed over.

## What is here

* The class, the function and the scope around a node (`enclosingClass?`, `enclosingMethod?`,
  `enclosingScope`), and definitions by name (`definitionNamed?`).
* Parameters.  They are collected from the children of a list by `parameterName?`, which is
  nothing for a comment; the first is left out in a method (`methodParameters`).
* Looking up.  The first assignment to a name is searched for by a walk that stays out of inner
  scopes (`firstAssignment?`); the walk meets the same nodes but for the comments, and those
  assign nothing.  `boundBy?` is one step outwards and `resolveIdentifier?` goes along the
  ancestors.
* Fields (`fieldNamed?`), by a walk of the same kind through a class, and the node within which a
  variable is assigned to (`symbolScope`).
-/

set_option autoImplicit false

namespace CryptoUsage
namespace Python

open SyntaxTree

variable {u : CompilationUnit}

variable (u) in
/-- No comment stands where nodes are taken as they come.  Elsewhere comments are passed over, or
tell themselves apart by what they are called. -/
structure CommentsApart : Prop where
  extras : u.tree.CommentsAreExtras
  /-- There is one kind of comment. -/
  kind_eq : ∀ n < u.tree.size, u.tree.isComment n = true → u.tree.kind n = "comment"
  /-- A string in several parts consists of everything in it. -/
  concatenated : ∀ n < u.tree.size, u.tree.kind n = "concatenated_string" →
    ∀ c ∈ u.tree.namedChildren n, u.tree.isComment c = false
  /-- The type of what stands in parentheses is that of what comes first. -/
  parenthesized : ∀ n < u.tree.size, u.tree.kind n = "parenthesized_expression" →
    ∀ c ∈ (u.tree.namedChildren n).head?, u.tree.isComment c = false

@[simp] theorem isScopeBoundary_spoken (n : NodeId) :
    isScopeBoundary u (u.tree.spokenId n) = isScopeBoundary u.withoutComments n := by
  simp [isScopeBoundary]

namespace CommentsApart

variable (h : CommentsApart u)
include h

theorem expressionsOf (n : NodeId) : Python.expressionsOf u (u.tree.spokenId n) =
    (Python.expressionsOf u.withoutComments n).map u.tree.spokenId := by
  have hcomment (c : NodeId) : (u.tree.kind c != "comment") = !u.tree.isComment c := by
    cases hc : u.tree.isComment c with
    | true => simp [h.kind_eq c (lt_size_of_isComment hc) hc]
    | false =>
      refine bne_iff_ne.mpr fun hkind => ?_
      rw [isComment, hkind] at hc
      exact absurd hc (by decide)
  have hnone : Python.expressionsOf u.withoutComments n = u.tree.withoutComments.namedChildren n :=
    List.filter_eq_self.mpr fun c _ => by
      rw [← kind_spoken, hcomment, isComment_spokenId]
      rfl
  rw [hnone, Python.expressionsOf, funext hcomment]
  exact namedChildren_spoken h.extras n

theorem enclosingClass? (n : NodeId) : Python.enclosingClass? u (u.tree.spokenId n) =
    (Python.enclosingClass? u.withoutComments n).map u.tree.spokenId := by
  simp [Python.enclosingClass?, ancestors_spoken h.extras, List.find?_map, Function.comp_def]

theorem enclosingMethod? (n : NodeId) : Python.enclosingMethod? u (u.tree.spokenId n) =
    (Python.enclosingMethod? u.withoutComments n).map u.tree.spokenId := by
  simp [Python.enclosingMethod?, ancestors_spoken h.extras, List.find?_map, Function.comp_def]

theorem enclosingScope (n : NodeId) : Python.enclosingScope u (u.tree.spokenId n) =
    u.tree.spokenId (Python.enclosingScope u.withoutComments n) := by
  rw [Python.enclosingScope, Python.enclosingScope, ← getD_root_spoken h.extras,
    h.enclosingMethod?, h.enclosingClass?]
  cases Python.enclosingMethod? u.withoutComments n <;> rfl

theorem definitionNamed? (name kind : String) (owner : Option NodeId) :
    Python.definitionNamed? u name kind (owner.map u.tree.spokenId) =
      (Python.definitionNamed? u.withoutComments name kind owner).map u.tree.spokenId := by
  have howner (n : NodeId) : (Python.enclosingClass? u (u.tree.spokenId n) ==
      owner.map u.tree.spokenId) = (Python.enclosingClass? u.withoutComments n == owner) := by
    rw [Bool.eq_iff_iff, beq_iff_eq, beq_iff_eq, h.enclosingClass?,
      (Option.map_injective u.tree.spokenId_strictMono.injective).eq_iff]
  rw [Python.definitionNamed?, Python.definitionNamed?,
    CompilationUnit.declarations_spoken h.extras, List.find?_map, Option.map_map, Option.map_map]
  simp [Function.comp_def, howner]

theorem isMethod (n : NodeId) :
    Python.isMethod u (u.tree.spokenId n) = Python.isMethod u.withoutComments n := by
  have hkind (holder : Option NodeId) : (holder.map u.tree.spokenId).map u.tree.kind =
      holder.map u.tree.withoutComments.kind := by simp [Function.comp_def]
  have hparent (holder : Option NodeId) : (holder.map u.tree.spokenId).bind u.tree.parent? =
      (holder.bind u.tree.withoutComments.parent?).map u.tree.spokenId := by
    cases holder with
    | none => rfl
    | some p => exact parent?_spoken h.extras p
  simp only [Python.isMethod, parent?_spoken h.extras, hkind, hparent]
  split <;> simp only [hkind, hparent]

/-! ## Parameters -/

theorem parameterName? (n : NodeId) : Python.parameterName? u (u.tree.spokenId n) =
    (Python.parameterName? u.withoutComments n).map u.tree.spokenId := by
  simp only [Python.parameterName?, kind_spoken, child?_spoken h.extras,
    find?_spoken (p := fun c => u.tree.kind c == "identifier") (namedChildren_spoken h.extras n)
      fun c hc => kind_beq_of_isComment hc (by decide)]
  split <;> rfl

omit h in
theorem parameterName?_of_isComment {c : NodeId} (hc : u.tree.isComment c = true) :
    Python.parameterName? u c = none := by
  unfold Python.parameterName?
  split
  case h_1 hkind | h_2 hkind | h_3 hkind | h_4 hkind =>
    exact absurd hkind (kind_ne_of_isComment hc (by decide))
  · rfl

theorem declaredParameters (n : NodeId) : Python.declaredParameters u (u.tree.spokenId n) =
    (Python.declaredParameters u.withoutComments n).map (Symbol.renumber u.tree.spokenId) := by
  simp only [Python.declaredParameters, child?_spoken h.extras]
  cases u.tree.withoutComments.child? n "parameters" with
  | none => rfl
  | some parameters =>
    simp only [Option.map_some]
    rw [filterMap_spoken (namedChildren_spoken h.extras parameters) fun c hc => by
      rw [parameterName?_of_isComment hc]; rfl, List.map_filterMap]
    refine List.filterMap_congr fun c _ => ?_
    rw [h.parameterName?, Option.map_map, Option.map_map]
    simp [Function.comp_def, Symbol.renumber]

theorem methodParameters (n : NodeId) : Python.methodParameters u (u.tree.spokenId n) =
    (Python.methodParameters u.withoutComments n).map (Symbol.renumber u.tree.spokenId) := by
  simp only [Python.methodParameters, h.declaredParameters, h.isMethod]
  cases Python.declaredParameters u.withoutComments n with
  | nil => rfl
  | cons first rest =>
    rw [apply_ite (List.map _)]
    rfl

/-! ## Looking up -/

theorem assignsName (name : String) (n : NodeId) :
    Python.assignsName u name (u.tree.spokenId n) =
      Python.assignsName u.withoutComments name n := by
  simp [Python.assignsName, child?_spoken h.extras, Option.any_map]

theorem assignedAt? (name : String) (kind : SymbolKind) (n : NodeId) :
    Python.assignedAt? u name kind (u.tree.spokenId n) =
      (Python.assignedAt? u.withoutComments name kind n).map
        (Symbol.renumber u.tree.spokenId) := by
  simp [Python.assignedAt?, child?_spoken h.extras, Function.comp_def, Symbol.renumber]

theorem firstAssignment? (name : String) (n : NodeId) :
    Python.firstAssignment? u name (u.tree.spokenId n) =
      (Python.firstAssignment? u.withoutComments name n).map (Symbol.renumber u.tree.spokenId) := by
  rw [Python.firstAssignment?, find?_spoken (preorderWhile_spoken h.extras _ n)]
  · simp only [Python.firstAssignment?, isScopeBoundary_spoken, h.assignsName, Option.bind_map,
      Option.map_bind, Function.comp_def, h.assignedAt?]
  · intro c hc
    rw [Python.assignsName, kind_beq_of_isComment hc (by decide), Bool.false_and]

theorem boundBy? (name : String) (n : NodeId) :
    Python.boundBy? u name (u.tree.spokenId n) =
      (Python.boundBy? u.withoutComments name n).map (Symbol.renumber u.tree.spokenId) := by
  simp only [Python.boundBy?, kind_spoken, h.methodParameters, child?_spoken h.extras,
    h.firstAssignment?]
  split
  · simp only [List.find?_map, Function.comp_def, Symbol.name_renumber, Option.bind_map,
      h.firstAssignment?]
    cases (Python.methodParameters u.withoutComments n).find? fun p => p.name == name with
    | none => exact Option.map_bind.symm
    | some parameter => rfl
  · have hlambda (parameters : NodeId) := find?_spoken
      (p := fun p => u.tree.kind p == "identifier" && u.tree.text p == name)
      (namedChildren_spoken h.extras parameters) fun c hc => by
        rw [kind_beq_of_isComment hc (by decide), Bool.false_and]
    simp only [Option.bind_eq_bind, Option.bind_map, Option.map_bind, Function.comp_def, hlambda,
      kind_spoken, text_spoken]
    rfl
  · rfl
  · rfl

/-- An identifier stands for the same variable. -/
theorem resolveIdentifier? (n : NodeId) : Python.resolveIdentifier? u (u.tree.spokenId n) =
    (Python.resolveIdentifier? u.withoutComments n).map (Symbol.renumber u.tree.spokenId) := by
  simp only [Python.resolveIdentifier?, Python.lookup?, ancestors_spoken h.extras, text_spoken,
    List.findSome?_map, List.map_findSome?, Function.comp_def, h.boundBy?]

/-! ## Fields -/

theorem selfAttribute? (n : NodeId) : Python.selfAttribute? u (u.tree.spokenId n) =
    Python.selfAttribute? u.withoutComments n := by
  simp [Python.selfAttribute?, child?_spoken h.extras, Option.bind_map]

theorem assignsField (name : String) (n : NodeId) :
    Python.assignsField u name (u.tree.spokenId n) =
      Python.assignsField u.withoutComments name n := by
  simp [Python.assignsField, child?_spoken h.extras, Option.any_map, h.selfAttribute?]

theorem fieldNamed? (name : String) (n : NodeId) :
    Python.fieldNamed? u name (u.tree.spokenId n) =
      (Python.fieldNamed? u.withoutComments name n).map (Symbol.renumber u.tree.spokenId) := by
  have hassignment (body : NodeId) := find?_spoken (p := Python.assignsField u name)
    (preorderWhile_spoken h.extras (fun n => u.tree.kind n != "class_definition") body)
    fun c hc => by rw [Python.assignsField, kind_beq_of_isComment hc (by decide), Bool.false_and]
  simp only [Python.fieldNamed?, child?_spoken h.extras, Option.bind_eq_bind, Option.bind_map,
    Option.map_bind, Function.comp_def, hassignment, h.assignsField, kind_spoken, h.assignedAt?]

theorem symbolScope (s : Symbol) : Python.symbolScope u (s.renumber u.tree.spokenId) =
    u.tree.spokenId (Python.symbolScope u.withoutComments s) := by
  simp only [Python.symbolScope, Symbol.kind_renumber, Symbol.declaration_renumber,
    h.enclosingScope, h.enclosingClass?, ancestors_spoken h.extras, List.find?_map,
    Function.comp_def, kind_spoken, getD_root_spoken h.extras]
  split
  · rfl
  · rfl
  · rfl
  · exact (spokenId_root h.extras).symm

end CommentsApart
end Python
end CryptoUsage
