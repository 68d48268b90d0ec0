import CryptoUsage.FrontEnd.Unit
import CryptoUsage.Proofs.Syntax.Nesting

/-!
# What the grammars promise

A syntax tree may be any tree, but a parser builds only trees of its grammar.  `Grammatical` says
as much of the two grammars as is needed to reason about declarations: which nodes never stand in
which slots.  All of it can be checked (`Decidable`), and it also holds of the trees of programs
with syntax errors, where a parser leaves slots empty but fills none with anything else.

## What is in it

* For Java: everything hangs from the root; what a loop starts with, a name and a list of
  parameters are no declarations, and nor are the members of such a list and the body of a type.
  So between a declaration and the scope it belongs to there is nothing that would have a scope of
  its own (`of_child?`, `of_parameters`, `of_body`), and every node is met by a walk from the root
  (`mem_preorder_root`).
* For Python: only the root is a module, a list of parameters is neither a function nor an
  assignment, and an identifier has no dot in it.

`CompilationUnit.Grammatical` is that of the language of a unit.  It is a hypothesis of the
statements about values and dispatch; nothing else about the grammars is assumed there.
-/

set_option autoImplicit false

namespace CryptoUsage

namespace Java

/-- Whether nodes of a kind declare a function, a type or a variable. -/
def isDeclarationKind (kind : String) : Bool :=
  Category.functionDeclaration.holds .java kind || Category.typeDeclaration.holds .java kind ||
    ["field_declaration", "constant_declaration", "variable_declarator"].contains kind

/-- The slots in which no declaration stands. -/
def plainSlots : List String := ["init", "name", "parameters"]

/-- What holds of the trees of Java units. -/
structure Grammatical (t : SyntaxTree) : Prop where
  /-- Everything hangs from the root. -/
  rooted : ∀ n < t.size, n ≠ SyntaxTree.root → (t.parent? n).isSome = true
  /-- What a loop starts with, a name and a list of parameters are no declarations. -/
  slot : ∀ n < t.size, (t.field? n).any plainSlots.contains = true →
    isDeclarationKind (t.kind n) = false
  /-- The members of a list of parameters are no declarations. -/
  parameter : ∀ n < t.size, (t.parent? n).bind t.field? = some "parameters" →
    isDeclarationKind (t.kind n) = false
  /-- The body of a type is no declaration. -/
  body : ∀ n < t.size, t.field? n = some "body" →
    ((t.parent? n).any fun p => Category.typeDeclaration.holds .java (t.kind p)) = true →
    isDeclarationKind (t.kind n) = false

instance (t : SyntaxTree) : Decidable (Grammatical t) :=
  decidable_of_iff
    ((∀ n < t.size, n ≠ SyntaxTree.root → (t.parent? n).isSome = true) ∧
      (∀ n < t.size, (t.field? n).any plainSlots.contains = true →
        isDeclarationKind (t.kind n) = false) ∧
      (∀ n < t.size, (t.parent? n).bind t.field? = some "parameters" →
        isDeclarationKind (t.kind n) = false) ∧
      ∀ n < t.size, t.field? n = some "body" →
        ((t.parent? n).any fun p => Category.typeDeclaration.holds .java (t.kind p)) = true →
        isDeclarationKind (t.kind n) = false)
    ⟨fun ⟨hrooted, hslot, hparameter, hbody⟩ => ⟨hrooted, hslot, hparameter, hbody⟩,
      fun h => ⟨h.rooted, h.slot, h.parameter, h.body⟩⟩

namespace Grammatical

variable {t : SyntaxTree} {n c : NodeId}

theorem of_child? (h : Grammatical t) {field : String} (hc : t.child? n field = some c)
    (hfield : field ∈ plainSlots) : isDeclarationKind (t.kind c) = false := by
  obtain ⟨hparent, hslot⟩ := SyntaxTree.parent?_of_child? hc
  refine h.slot c (t.lt_size_of_parent? hparent) ?_
  rw [hslot, Option.any_some]
  exact List.contains_iff_mem.mpr hfield

theorem of_parameters (h : Grammatical t) {parameters : NodeId}
    (hparameters : t.child? n "parameters" = some parameters)
    (hc : t.parent? c = some parameters) : isDeclarationKind (t.kind c) = false := by
  refine h.parameter c (t.lt_size_of_parent? hc) ?_
  rw [hc, Option.bind_some, (SyntaxTree.parent?_of_child? hparameters).2]

theorem of_body (h : Grammatical t) (hc : t.child? n "body" = some c)
    (htype : Category.typeDeclaration.holds .java (t.kind n) = true) :
    isDeclarationKind (t.kind c) = false := by
  obtain ⟨hparent, hslot⟩ := SyntaxTree.parent?_of_child? hc
  refine h.body c (t.lt_size_of_parent? hparent) hslot ?_
  rw [hparent, Option.any_some, htype]

/-- Everything is below the root. -/
theorem mem_preorder_root (h : Grammatical t) (hn : n < t.size) :
    n ∈ t.preorder SyntaxTree.root := by
  refine (SyntaxTree.mem_preorder_iff (Nat.lt_of_le_of_lt (Nat.zero_le n) hn)).mpr ?_
  induction n using Nat.strongRecOn with
  | ind n ih =>
    by_cases hroot : n = SyntaxTree.root
    · exact .inl hroot
    · obtain ⟨p, hp⟩ := Option.isSome_iff_exists.mp (h.rooted n hn hroot)
      have hlt := t.parent?_lt hp
      rw [SyntaxTree.ancestors_of_parent? hp]
      rcases ih p hlt (Nat.lt_trans hlt hn) with rfl | hmem
      · exact .inr List.mem_cons_self
      · exact .inr (List.mem_cons_of_mem _ hmem)

end Grammatical

end Java

namespace Python

/-- What holds of the trees of Python units. -/
structure Grammatical (t : SyntaxTree) : Prop where
  /-- Only the root is a module. -/
  module : ∀ n < t.size, t.kind n = "module" → n = SyntaxTree.root
  /-- A list of parameters is no function and no assignment. -/
  parameters : ∀ n < t.size, t.field? n = some "parameters" →
    ["function_definition", "lambda", "assignment"].contains (t.kind n) = false
  /-- An identifier is not dotted. -/
  identifier : ∀ n < t.size, t.kind n = "identifier" → '.' ∉ (t.text n).toList

instance (t : SyntaxTree) : Decidable (Grammatical t) :=
  decidable_of_iff
    ((∀ n < t.size, t.kind n = "module" → n = SyntaxTree.root) ∧
      (∀ n < t.size, t.field? n = some "parameters" →
        ["function_definition", "lambda", "assignment"].contains (t.kind n) = false) ∧
      ∀ n < t.size, t.kind n = "identifier" → '.' ∉ (t.text n).toList)
    ⟨fun ⟨hmodule, hparameters, hidentifier⟩ => ⟨hmodule, hparameters, hidentifier⟩,
      fun h => ⟨h.module, h.parameters, h.identifier⟩⟩

end Python

/-- The tree of a unit is one of the grammar of its language. -/
def CompilationUnit.Grammatical (u : CompilationUnit) : Prop :=
  match u.language with
  | .java => Java.Grammatical u.tree
  | .python => Python.Grammatical u.tree

instance (u : CompilationUnit) : Decidable u.Grammatical :=
  match hlanguage : u.language with
  | .java =>
    decidable_of_iff (Java.Grammatical u.tree) (by rw [CompilationUnit.Grammatical, hlanguage])
  | .python =>
    decidable_of_iff (Python.Grammatical u.tree) (by rw [CompilationUnit.Grammatical, hlanguage])

end CryptoUsage
