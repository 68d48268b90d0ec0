import CryptoUsage.Proofs.FrontEnd.PythonVariables

/-!
# Reassignments of Python variables

Which assignments give values to a local variable is found out by looking up the name again from
every assignment below the variable's scope, functions and classes inside included.  The search
for the first assignment, by which the variable is known, does not enter those.

For an assignment in a function or in the module the two agree: what an assignment directly in a
function assigns, the function binds (`isSome_boundBy?_of_assigns`), so the lookup gets no
further, and all values of a variable come from the function or module that its first assignment
is directly in (`CompilationUnit.reassignments_stay_in_scope`).

A class binds nothing for the lookup, although what is assigned in its body belongs to the class.
So an assignment directly in a class is taken for one to the variable of the same name outside
(`CompilationUnit.reassignment_in_class_body`).

## What is here

* `definer?` is the function, class or lambda that a node is directly in.  The left side of an
  assignment is directly in what the assignment is directly in (`definer?_of_parent?`).
* What a scope binds is directly in it (`IsBoundBy.definer?_declaration`), by what is known of the
  way up from the first assignment.
* Conversely, `definer?_of_assignmentTarget?`: a local variable that is assigned directly in a
  function or in the module is the one that this function or the module binds.  `AssignsInBodies`
  is used here, which says that assignments are statements in bodies.
-/

set_option autoImplicit false

namespace CryptoUsage
namespace Python

variable {u : CompilationUnit} {s : Symbol} {name : String} {n d p left : NodeId}

variable (u) in
/-- The function, class or lambda that a node is directly in.  There is none directly in the
module. -/
def definer? (n : NodeId) : Option NodeId := (u.tree.ancestors n).find? (isScopeBoundary u)

variable (u) in
/-- A node is directly in a class. -/
def IsInClassBody (n : NodeId) : Prop := ∃ c ∈ definer? u n, u.tree.kind c = "class_definition"

variable (u) in
/-- Assignments are statements: no lambda holds one, and those directly in a function or class are
in its body. -/
def AssignsInBodies : Prop :=
  ∀ n < u.tree.size, u.tree.kind n = "assignment" → ∀ d ∈ definer? u n,
    u.tree.kind d ≠ "lambda" ∧
      ∃ body ∈ u.tree.child? d "body", body ∈ u.tree.ancestors n

instance (n : NodeId) : Decidable (IsInClassBody u n) :=
  inferInstanceAs (Decidable (∃ c ∈ definer? u n, u.tree.kind c = "class_definition"))

instance : Decidable (AssignsInBodies u) :=
  inferInstanceAs (Decidable (∀ n < u.tree.size, u.tree.kind n = "assignment" →
    ∀ d ∈ definer? u n, u.tree.kind d ≠ "lambda" ∧
      ∃ body ∈ u.tree.child? d "body", body ∈ u.tree.ancestors n))

/-! ## What a node is directly in -/

theorem exists_between_definer? (h : definer? u n = some d) :
    isScopeBoundary u d = true ∧ ∃ between,
      u.tree.ancestors n = between ++ d :: u.tree.ancestors d ∧
        ∀ a ∈ between, isScopeBoundary u a = false := by
  obtain ⟨hboundary, between, above, heq, hopen⟩ := List.find?_eq_some_iff_append.mp h
  refine ⟨hboundary, between, SyntaxTree.ancestors_of_append heq ▸ heq, fun a ha => ?_⟩
  exact (Bool.not_eq_true' _).mp (hopen a ha)

theorem isScopeBoundary_iff :
    isScopeBoundary u n = true ↔ u.tree.kind n = "function_definition" ∨
      u.tree.kind n = "class_definition" ∨ u.tree.kind n = "lambda" := by
  simp [isScopeBoundary]

/-- What is directly in the module is below nothing that opens a scope. -/
theorem definer?_eq_none_iff :
    definer? u n = none ↔ ∀ a ∈ u.tree.ancestors n, isScopeBoundary u a = false := by
  rw [definer?, List.find?_eq_none]
  exact forall₂_congr fun a _ => iff_of_eq (Bool.not_eq_true _)

/-- The left side of an assignment is directly in what the assignment is directly in. -/
theorem definer?_of_parent? (hparent : u.tree.parent? left = some p)
    (hopen : isScopeBoundary u p = false) : definer? u left = definer? u p := by
  rw [definer?, SyntaxTree.ancestors_of_parent? hparent,
    List.find?_cons_of_neg (Bool.eq_false_iff.mp hopen), definer?]

/-! ## What a scope binds is directly in it -/

/-- A local variable bound by a function is directly in the function, and one bound by the module
directly in the module. -/
theorem IsBoundBy.definer?_declaration (hg : Grammatical u.tree) {scope : NodeId}
    (h : IsBoundBy u scope name s) (hlocal : s.kind = .local) :
    definer? u s.declaration =
      if u.tree.kind scope = "function_definition" then some scope else none := by
  cases h with
  | parameter hparameter => cases hlocal.symm.trans hparameter
  | @assigned assignment between _ scope_kind _ _ ancestors_eq open_ =>
    split
    · next hfunction =>
      exact SyntaxTree.find?_ancestors ancestors_eq open_
        (isScopeBoundary_iff.mpr (.inl hfunction))
    · next hfunction =>
      have hmodule := scope_kind.resolve_left hfunction
      have hroot : scope = SyntaxTree.root :=
        hg.module scope (u.tree.lt_size_of_kind_ne (by rw [hmodule]; decide)) hmodule
      have htop : u.tree.ancestors scope = [] := hroot ▸ rfl
      rw [definer?_eq_none_iff, ancestors_eq, htop]
      intro a ha
      rcases List.mem_append.mp ha with ha | ha
      · exact open_ a ha
      · rw [List.mem_singleton.mp ha, isScopeBoundary, hmodule]
        decide

/-- **A function binds every name that is assigned directly in it.** -/
theorem isSome_boundBy?_of_assigns (hp : u.tree.kind p = "assignment")
    (hleft : u.tree.child? p "left" = some left) (hidentifier : u.tree.kind left = "identifier")
    (hd : u.tree.kind d = "function_definition") {body : NodeId}
    (hbody : u.tree.child? d "body" = some body) (hmem : body ∈ u.tree.ancestors p)
    (hdefiner : definer? u p = some d) : (boundBy? u (u.tree.text left) d).isSome = true := by
  have hparent := (SyntaxTree.parent?_of_child? hbody).1
  obtain ⟨-, between, heq, hopen⟩ := exists_between_definer? hdefiner
  obtain ⟨inner, hinner⟩ := SyntaxTree.exists_between hmem
  -- the body is between the assignment and the function, so the walk through it gets there
  have hbetween : between = inner ++ [body] := by
    rw [hinner, SyntaxTree.ancestors_of_parent? hparent, ← List.singleton_append,
      ← List.append_assoc] at heq
    exact (List.append_inj_left' heq rfl).symm
  have hinside : p ∈ u.tree.preorderWhile (fun n => !isScopeBoundary u n) body := by
    refine (SyntaxTree.mem_preorderWhile_iff (u.tree.lt_size_of_parent? hparent)).mpr
      (.inr ⟨inner, hinner, ?_, fun a ha => ?_⟩)
    · rw [hopen body (by simp [hbetween]), Bool.not_false]
    · rw [hopen a (by simp [hbetween, ha]), Bool.not_false]
  have hassigns : assignsName u (u.tree.text left) p = true := by
    simp [assignsName, hp, hleft, hidentifier]
  have hfirst : (firstAssignment? u (u.tree.text left) body).isSome = true := by
    obtain ⟨first, hfirst⟩ := Option.isSome_iff_exists.mp
      (List.find?_isSome.mpr ⟨p, hinside, hassigns⟩)
    have hfound : assignsName u (u.tree.text left) first = true := List.find?_some hfirst
    rw [firstAssignment?, hfirst, Option.bind_some, assignedAt?, Option.isSome_map]
    exact Option.isSome_of_any (Bool.and_eq_true_iff.mp hfound).2
  rw [boundBy?, hd]
  simp only [hbody, Option.bind_some, Option.orElse_eq_or, Option.isSome_or, hfirst, Bool.or_true]

/-- **A local variable that is assigned directly in a function or in the module is the one that this
function or the module binds.** -/
theorem definer?_of_assignmentTarget? (hg : Grammatical u.tree) (hbodies : AssignsInBodies u)
    (hp : u.tree.kind p = "assignment") (hleft : u.tree.child? p "left" = some left)
    (htarget : assignmentTarget? u left = some s) (hlocal : s.kind = .local)
    (hclass : ¬ IsInClassBody u p) : definer? u s.declaration = definer? u p := by
  have hparent := (SyntaxTree.parent?_of_child? hleft).1
  have hopenp := isScopeBoundary_of_assignment hp
  rw [assignmentTarget?] at htarget
  split at htarget
  · next hidentifier =>
    obtain ⟨scope, hscope, hbound⟩ := List.exists_of_findSome?_eq_some htarget
    cases hdefiner : definer? u p with
    | none =>
      -- no function is above the assignment, so the module binds the name
      rw [← definer?_of_parent? hparent hopenp] at hdefiner
      have hfunction : u.tree.kind scope ≠ "function_definition" := fun hkind => by
        have hopen := definer?_eq_none_iff.mp hdefiner scope hscope
        rw [isScopeBoundary_iff.mpr (.inl hkind)] at hopen
        cases hopen
      rw [(isBoundBy_of_boundBy? hbound).definer?_declaration hg hlocal, if_neg hfunction]
    | some d =>
      obtain ⟨hlambda, body, hbody, hmem⟩ :=
        hbodies p (u.tree.lt_size_of_kind_ne (by rw [hp]; decide)) hp d hdefiner
      obtain ⟨hboundary, -⟩ := exists_between_definer? hdefiner
      have hfunction : u.tree.kind d = "function_definition" := by
        rcases isScopeBoundary_iff.mp hboundary with h | h | h
        · exact h
        · exact absurd ⟨d, hdefiner, h⟩ hclass
        · exact absurd h hlambda
      obtain ⟨t, ht⟩ := Option.isSome_iff_exists.mp
        (isSome_boundBy?_of_assigns hp hleft hidentifier hfunction hbody hmem hdefiner)
      rw [← definer?_of_parent? hparent hopenp] at hdefiner
      obtain ⟨-, between, heq, hopen⟩ := exists_between_definer? hdefiner
      obtain rfl : t = s :=
        Option.some.inj ((lookup?_of_boundBy? hg ht heq hopen).symm.trans htarget)
      rw [(isBoundBy_of_boundBy? ht).definer?_declaration hg hlocal, if_pos hfunction]
  · -- an attribute of `self` is no local variable
    obtain ⟨_, -, htarget⟩ := Option.bind_eq_some_iff.mp htarget
    obtain ⟨owner, -, hfield⟩ := Option.bind_eq_some_iff.mp htarget
    cases hlocal.symm.trans (isFieldOf_of_fieldNamed? hfield).kind_eq
  · cases htarget

end Python

namespace CompilationUnit

variable (u : CompilationUnit)

/-- **Reassignments stay in their own scope**: every value that later assignments give to a local
variable of a Python unit is the right side of an assignment which, unless it is directly in a
class, is directly in the same function, or in the module, as the declaration of the variable.  So
no assignment in a function inside gives a value to it. -/
theorem reassignments_stay_in_scope (hlanguage : u.language = .python) (hg : u.Grammatical)
    (hbodies : Python.AssignsInBodies u) {s : Symbol} (hlocal : s.kind = .local) {v : NodeId}
    (hv : v ∈ u.assignments s) :
    ∃ p, u.tree.kind p = "assignment" ∧ u.tree.child? p "right" = some v ∧
      (¬ Python.IsInClassBody u p →
        Python.definer? u p = Python.definer? u s.declaration) := by
  simp only [Grammatical, assignments, hlanguage] at hg hv
  obtain ⟨p, -, hp, hright, left, hleft, -, t, ht, hsame⟩ := Python.mem_assignments.mp hv
  obtain ⟨hdeclaration, hkind⟩ := Bool.and_eq_true_iff.mp hsame
  refine ⟨p, hp, hright, fun hclass => ?_⟩
  rw [← beq_iff_eq.mp hdeclaration]
  exact (Python.definer?_of_assignmentTarget? hg hbodies hp hleft ht
    ((beq_iff_eq.mp hkind).trans hlocal) hclass).symm

end CompilationUnit

/-! ### A variable of the module and one of a class

    k = 1
    class A:
        k = 2
    k = 3
    g(k)
-/

namespace ReassignedInClass

/-- The nodes of the program. -/
def nodes : Array SyntaxNode := #[
  ⟨none, "module", true, none, ⟨1, 1, 0, 36⟩, "k = 1\nclass A:\n    k = 2\nk = 3\ng(k)\n"⟩,
  ⟨some 0, "expression_statement", true, none, ⟨1, 1, 0, 5⟩, "k = 1"⟩,
  ⟨some 1, "assignment", true, none, ⟨1, 1, 0, 5⟩, "k = 1"⟩,
  ⟨some 2, "identifier", true, some "left", ⟨1, 1, 0, 1⟩, "k"⟩,
  ⟨some 2, "=", false, none, ⟨1, 3, 2, 3⟩, "="⟩,
  ⟨some 2, "integer", true, some "right", ⟨1, 5, 4, 5⟩, "1"⟩,
  ⟨some 0, "class_definition", true, none, ⟨2, 1, 6, 24⟩, "class A:\n    k = 2"⟩,
  ⟨some 6, "class", false, none, ⟨2, 1, 6, 11⟩, "class"⟩,
  ⟨some 6, "identifier", true, some "name", ⟨2, 7, 12, 13⟩, "A"⟩,
  ⟨some 6, ":", false, none, ⟨2, 8, 13, 14⟩, ":"⟩,
  ⟨some 6, "block", true, some "body", ⟨3, 5, 19, 24⟩, "k = 2"⟩,
  ⟨some 10, "expression_statement", true, none, ⟨3, 5, 19, 24⟩, "k = 2"⟩,
  ⟨some 11, "assignment", true, none, ⟨3, 5, 19, 24⟩, "k = 2"⟩,
  ⟨some 12, "identifier", true, some "left", ⟨3, 5, 19, 20⟩, "k"⟩,
  ⟨some 12, "=", false, none, ⟨3, 7, 21, 22⟩, "="⟩,
  ⟨some 12, "integer", true, some "right", ⟨3, 9, 23, 24⟩, "2"⟩,
  ⟨some 0, "expression_statement", true, none, ⟨4, 1, 25, 30⟩, "k = 3"⟩,
  ⟨some 16, "assignment", true, none, ⟨4, 1, 25, 30⟩, "k = 3"⟩,
  ⟨some 17, "identifier", true, some "left", ⟨4, 1, 25, 26⟩, "k"⟩,
  ⟨some 17, "=", false, none, ⟨4, 3, 27, 28⟩, "="⟩,
  ⟨some 17, "integer", true, some "right", ⟨4, 5, 29, 30⟩, "3"⟩,
  ⟨some 0, "expression_statement", true, none, ⟨5, 1, 31, 35⟩, "g(k)"⟩,
  ⟨some 21, "call", true, none, ⟨5, 1, 31, 35⟩, "g(k)"⟩,
  ⟨some 22, "identifier", true, some "function", ⟨5, 1, 31, 32⟩, "g"⟩,
  ⟨some 22, "argument_list", true, some "arguments", ⟨5, 2, 32, 35⟩, "(k)"⟩,
  ⟨some 24, "(", false, none, ⟨5, 2, 32, 33⟩, "("⟩,
  ⟨some 24, "identifier", true, none, ⟨5, 3, 33, 34⟩, "k"⟩,
  ⟨some 24, ")", false, none, ⟨5, 4, 34, 35⟩, ")"⟩]

/-- The unit with the program. -/
def unit : CompilationUnit where
  language := .python
  filePath := "m.py"
  tree := { nodes, parent_lt := by decide +kernel }

/-- The variable of the module. -/
def k : Symbol := ⟨"k", 3, .local⟩

end ReassignedInClass

set_option maxRecDepth 100000 in
/-- The last assignment is in the module, where the variable is declared. -/
theorem CompilationUnit.reassignment_in_module :
    ReassignedInClass.unit.expression 26 = .variable ReassignedInClass.k ∧
    ∃ p, ReassignedInClass.unit.tree.kind p = "assignment" ∧
      ReassignedInClass.unit.tree.child? p "right" = some 20 ∧
      (¬ Python.IsInClassBody ReassignedInClass.unit p →
        Python.definer? ReassignedInClass.unit p =
          Python.definer? ReassignedInClass.unit ReassignedInClass.k.declaration) :=
  ⟨by decide +kernel,
    reassignments_stay_in_scope ReassignedInClass.unit rfl (by decide +kernel) (by decide +kernel)
      rfl (by decide +kernel)⟩

set_option maxRecDepth 100000 in
/-- **An assignment in a class body is taken for one to the variable of the module**, of which it is
a value then, although it is directly in the class. -/
theorem CompilationUnit.reassignment_in_class_body :
    ReassignedInClass.unit.Grammatical ∧ Python.AssignsInBodies ReassignedInClass.unit ∧
      ReassignedInClass.unit.expression 26 = .variable ReassignedInClass.k ∧
      ¬ ∀ v ∈ ReassignedInClass.unit.assignments ReassignedInClass.k,
        ∃ p, ReassignedInClass.unit.tree.kind p = "assignment" ∧
          ReassignedInClass.unit.tree.child? p "right" = some v ∧
          Python.definer? ReassignedInClass.unit p =
            Python.definer? ReassignedInClass.unit ReassignedInClass.k.declaration := by
  refine ⟨by decide +kernel, by decide +kernel, by decide +kernel, fun h => ?_⟩
  obtain ⟨p, -, hright, hdefiner⟩ := h 15 (by decide +kernel)
  have hparent : ReassignedInClass.unit.tree.parent? 15 = some 12 := by decide +kernel
  obtain rfl : 12 = p :=
    Option.some.inj (hparent.symm.trans (SyntaxTree.parent?_of_child? hright).1)
  exact absurd hdefiner (by decide +kernel)

end CryptoUsage
