import CryptoUsage.Proofs.FrontEnd.JavaVariables
import CryptoUsage.Proofs.FrontEnd.PythonVariables

/-!
# The values of a variable

The analysis asks in two directions where values go.  Downwards, a variable is asked for its
values: the one it is declared with, and those that are assigned to it later, which are looked for
in its scope only.  Upwards, a value is asked for the variable that takes it, which is looked up
by name.

In units of both languages the two directions agree (`CompilationUnit.values_are_assigned`), so no
assignment is out of reach of the search downwards.  The argument is that of the language: what
declares or binds a variable is above every place where the name means it, and the scope of the
variable is at or above that (`Java.isValueOf_iff`, `Python.isValueOf_iff`).

`variableAt?` is what may be asked: an identifier, or a field of the object itself.  It is the
same that may stand on the left of an assignment, and so the statement covers every kind of
variable, those that are declared without a value and those that no assignment reaches included.
The one hypothesis is `CompilationUnit.Grammatical`.

`CompilationUnit.second_value_is_assigned` is a variable with two values, of which one is that of
its declaration and the other an assignment.
-/

set_option autoImplicit false

namespace CryptoUsage
namespace CompilationUnit

variable (u : CompilationUnit)

/-- The variable that an identifier or a field of the object itself (`this.x`, `self.x`) stands
for. -/
def variableAt? (n : NodeId) : Option Symbol :=
  match u.language with
  | .java => Java.assignmentTarget? u n
  | .python => Python.assignmentTarget? u n

/-- A node is the value of a declarator or the right side of a plain assignment. -/
def IsAssigned (v : NodeId) : Prop :=
  match u.language with
  | .java => Java.IsAssigned u v
  | .python => Python.IsAssigned u v

/-- **The values of a variable are the expressions that it takes the value of**: what a variable is
declared with or later assigned is the value of a declarator or of a plain assignment that, looked
at from the value, is assigned to the variable; and everything that is, anywhere in the unit, is
found among what the variable is declared with or later assigned. -/
theorem values_are_assigned (hg : u.Grammatical) {n : NodeId} {s : Symbol}
    (hs : u.variableAt? n = some s) (v : NodeId) :
    (u.initializer? s = some v ∨ v ∈ u.assignments s) ↔
      u.IsAssigned v ∧ ∃ t, u.assignedSymbol? v = some t ∧ t.same s = true := by
  cases hlanguage : u.language with
  | java =>
    simp only [Grammatical, variableAt?, initializer?, assignments, IsAssigned, assignedSymbol?,
      hlanguage] at hg hs ⊢
    exact Java.isValueOf_iff hg hs
  | python =>
    simp only [Grammatical, variableAt?, initializer?, assignments, IsAssigned, assignedSymbol?,
      hlanguage] at hg hs ⊢
    exact Python.isValueOf_iff hg hs

end CompilationUnit

/-! ### A variable with two values

    x = 1
    x = 2
-/

namespace Reassigned

/-- The nodes of the program. -/
def nodes : Array SyntaxNode := #[
  ⟨none, "module", true, none, ⟨1, 1, 0, 12⟩, "x = 1\nx = 2\n"⟩,
  ⟨some 0, "expression_statement", true, none, ⟨1, 1, 0, 5⟩, "x = 1"⟩,
  ⟨some 1, "assignment", true, none, ⟨1, 1, 0, 5⟩, "x = 1"⟩,
  ⟨some 2, "identifier", true, some "left", ⟨1, 1, 0, 1⟩, "x"⟩,
  ⟨some 2, "=", false, none, ⟨1, 3, 2, 3⟩, "="⟩,
  ⟨some 2, "integer", true, some "right", ⟨1, 5, 4, 5⟩, "1"⟩,
  ⟨some 0, "expression_statement", true, none, ⟨2, 1, 6, 11⟩, "x = 2"⟩,
  ⟨some 6, "assignment", true, none, ⟨2, 1, 6, 11⟩, "x = 2"⟩,
  ⟨some 7, "identifier", true, some "left", ⟨2, 1, 6, 7⟩, "x"⟩,
  ⟨some 7, "=", false, none, ⟨2, 3, 8, 9⟩, "="⟩,
  ⟨some 7, "integer", true, some "right", ⟨2, 5, 10, 11⟩, "2"⟩]

/-- The unit with the program. -/
def unit : CompilationUnit where
  language := .python
  filePath := "m.py"
  tree := { nodes, parent_lt := by decide +kernel }

/-- The variable. -/
def x : Symbol := ⟨"x", 3, .local⟩

end Reassigned

set_option maxRecDepth 100000 in
/-- The second value, which is among the assignments, is assigned to the variable. -/
theorem CompilationUnit.second_value_is_assigned :
    Reassigned.unit.Grammatical ∧ Reassigned.unit.variableAt? 8 = some Reassigned.x ∧
      Reassigned.unit.initializer? Reassigned.x = some 5 ∧
      Reassigned.unit.assignments Reassigned.x = [10] ∧
      Reassigned.unit.IsAssigned 10 ∧
      ∃ t, Reassigned.unit.assignedSymbol? 10 = some t ∧ t.same Reassigned.x = true := by
  have hg : Reassigned.unit.Grammatical := by decide +kernel
  have hs : Reassigned.unit.variableAt? 8 = some Reassigned.x := by decide +kernel
  have hassigned : Reassigned.unit.assignments Reassigned.x = [10] := by decide +kernel
  refine ⟨hg, hs, by decide +kernel, hassigned, ?_⟩
  exact (values_are_assigned Reassigned.unit hg hs 10).mp
    (.inr (hassigned ▸ List.mem_cons_self))

end CryptoUsage
