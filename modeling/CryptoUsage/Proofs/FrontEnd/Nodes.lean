import CryptoUsage.FrontEnd.Unit
import CryptoUsage.Proofs.Syntax.Nesting
import Mathlib.Data.Option.Basic

/-!
# What a unit answers are nodes of its tree

Following a value goes from a node to others that the unit names: what is inside an expression,
the arguments and the receiver of a call, what a variable is declared with and assigned, what a
method returns.  Each of these hangs in the tree under some node, what is inside an expression
under that expression (`isAt_expression`), so a search that starts at a node never leaves the
tree.  A search marks the nodes that it is at, and because the marks are nodes of the tree there
are never more of them than the tree has nodes.

## What is here

* `Expression.IsAt` says of a shape that it is one that an expression at a node can have: its
  parts are children of the node, the sizes of an array children of brackets, and a site is the
  node itself.  `Expression.parts` lists what is inside.
* For each language: expressions have such shapes (`isAt_expression`, one lemma for each kind of
  expression that takes more than a line), and what the unit names besides are nodes
  (`lt_size_of_mem_arguments` and those that follow).  Mostly this is because they are children of
  something; only what a walk finds goes through the walk.
* For a unit of either language, by cases on the language.  This last section is what the other
  modules use.
-/

set_option autoImplicit false

namespace CryptoUsage

namespace SyntaxTree

variable {t : SyntaxTree} {n c : NodeId}

theorem lt_size_of_mem_namedChildren (h : c ∈ t.namedChildren n) : c < t.size :=
  t.lt_size_of_parent? (parent?_of_mem_namedChildren h)

theorem lt_size_of_child? {field : String} (h : t.child? n field = some c) : c < t.size :=
  t.lt_size_of_parent? (parent?_of_child? h).1

end SyntaxTree

namespace Expression

/-- The expressions of which a shape is made. -/
def parts : Expression → List NodeId
  | member object _ => [object]
  | arrayCreation dimensions _ _ => dimensions
  | wrapped inner => [inner]
  | _ => []

/-- A shape as an expression at a node has it: its parts stand below the node, the sizes of an array
in brackets of their own, and a site is the node itself. -/
def IsAt (t : SyntaxTree) (n : NodeId) : Expression → Prop
  | member object _ => t.parent? object = some n
  | wrapped inner => t.parent? inner = some n
  | call site => site.node = n
  | arrayCreation dimensions _ _ =>
    ∀ d ∈ dimensions, ∃ p, t.parent? d = some p ∧ t.kind p = "dimensions_expr"
  | _ => True

theorem IsAt.lt_size_of_mem_parts {t : SyntaxTree} {n c : NodeId} {shape : Expression}
    (h : shape.IsAt t n) (hc : c ∈ shape.parts) : c < t.size := by
  cases shape with
  | member object name => exact List.mem_singleton.mp hc ▸ t.lt_size_of_parent? h
  | wrapped inner => exact List.mem_singleton.mp hc ▸ t.lt_size_of_parent? h
  | arrayCreation dimensions rank elements =>
    obtain ⟨p, hparent, -⟩ := h c hc
    exact t.lt_size_of_parent? hparent
  | _ => cases hc

end Expression

/-! ## Java -/

namespace Java

variable {u : CompilationUnit} {n c : NodeId}

theorem lt_size_of_mem_expressionsOf (h : c ∈ expressionsOf u n) : c < u.tree.size :=
  u.tree.lt_size_of_mem_namedChildren (List.mem_of_mem_filter h)

theorem lt_size_of_head_expressionsOf (h : (expressionsOf u n).head? = some c) :
    c < u.tree.size :=
  lt_size_of_mem_expressionsOf (List.mem_of_mem_head? h)

theorem parent?_of_mem_expressionsOf (h : c ∈ expressionsOf u n) : u.tree.parent? c = some n :=
  SyntaxTree.parent?_of_mem_namedChildren (List.mem_of_mem_filter h)

theorem isAt_identifierExpression (u : CompilationUnit) (n : NodeId) :
    (identifierExpression u n).IsAt u.tree n := by
  unfold identifierExpression
  split
  · trivial
  · split
    · split <;> trivial
    · trivial

theorem isAt_fieldExpression (u : CompilationUnit) (n : NodeId) :
    (fieldExpression u n).IsAt u.tree n := by
  unfold fieldExpression
  split
  · trivial
  · split
    · next hobject _ =>
      dsimp only
      split
      · trivial
      · exact (SyntaxTree.parent?_of_child? hobject).1
    · trivial

theorem isAt_arrayCreation (u : CompilationUnit) (n : NodeId) :
    (arrayCreation u n).IsAt u.tree n := by
  unfold arrayCreation
  split
  · exact fun d hd => absurd hd List.not_mem_nil
  · intro d hd
    obtain ⟨dimension, hdimension, hsize⟩ := List.mem_filterMap.mp hd
    exact ⟨dimension, parent?_of_mem_expressionsOf (List.mem_of_find?_eq_some hsize),
      beq_iff_eq.mp (List.mem_filter.mp hdimension).2⟩

theorem isAt_wrapped {inner : Option NodeId} (h : ∀ i, inner = some i → u.tree.parent? i = some n) :
    (wrapped inner).IsAt u.tree n := by
  cases inner with
  | none => trivial
  | some i => exact h i rfl

theorem isAt_unaryExpression (u : CompilationUnit) (n : NodeId) :
    (unaryExpression u n).IsAt u.tree n := by
  unfold unaryExpression
  split
  · trivial
  · next hoperand =>
    split
    · trivial
    · exact (SyntaxTree.parent?_of_child? hoperand).1
    · trivial

theorem isAt_expression (u : CompilationUnit) (n : NodeId) : (expression u n).IsAt u.tree n := by
  unfold expression
  split
  · trivial
  · split
    · exact isAt_identifierExpression u n
    · exact isAt_fieldExpression u n
    · rfl
    · rfl
    · exact isAt_arrayCreation u n
    · exact isAt_arrayCreation u n
    · exact isAt_wrapped fun i hi => parent?_of_mem_expressionsOf (List.mem_of_mem_head? hi)
    · exact isAt_wrapped fun i hi => (SyntaxTree.parent?_of_child? hi).1
    · exact isAt_unaryExpression u n
    · trivial

theorem lt_size_of_mem_argumentsOf (h : c ∈ argumentsOf u n) : c < u.tree.size := by
  unfold argumentsOf at h
  split at h
  · exact lt_size_of_mem_expressionsOf h
  · cases h

theorem lt_size_of_mem_arguments {site : Site} (h : c ∈ arguments u site) : c < u.tree.size := by
  cases site with
  | invocation n => exact lt_size_of_mem_argumentsOf h
  | construction n => exact lt_size_of_mem_argumentsOf h
  | enumSelection n => cases h

theorem lt_size_of_receiver? {site : Site} (h : receiver? u site = some c) : c < u.tree.size := by
  cases site with
  | invocation n => exact u.tree.lt_size_of_child? h
  | construction n => cases h
  | enumSelection n => cases h

theorem lt_size_of_initializer? {s : Symbol} (h : initializer? u s = some c) :
    c < u.tree.size := by
  unfold initializer? at h
  split at h
  · exact u.tree.lt_size_of_child? h
  · cases h

theorem lt_size_of_mem_assignments {s : Symbol} (h : c ∈ assignments u s) : c < u.tree.size := by
  obtain ⟨n, -, h⟩ := List.mem_filterMap.mp h
  simp only [valueAssignedTo?, Option.bind_eq_bind, Option.bind_eq_some_iff] at h
  obtain ⟨_, -, left, -, right, hright, target, -, _, -, heq⟩ := h
  exact Option.some.inj heq ▸ u.tree.lt_size_of_child? hright

theorem lt_size_of_mem_methodReturns {method : NodeId} (h : c ∈ methodReturns u method) :
    c < u.tree.size := by
  unfold methodReturns at h
  split at h
  · cases h
  · obtain ⟨statement, -, h⟩ := List.mem_filterMap.mp h
    exact lt_size_of_head_expressionsOf h

end Java

/-! ## Python -/

namespace Python

variable {u : CompilationUnit} {n c : NodeId}

theorem lt_size_of_mem_expressionsOf (h : c ∈ expressionsOf u n) : c < u.tree.size :=
  u.tree.lt_size_of_mem_namedChildren (List.mem_of_mem_filter h)

theorem lt_size_of_head_expressionsOf (h : (expressionsOf u n).head? = some c) :
    c < u.tree.size :=
  lt_size_of_mem_expressionsOf (List.mem_of_mem_head? h)

theorem parent?_of_mem_expressionsOf (h : c ∈ expressionsOf u n) : u.tree.parent? c = some n :=
  SyntaxTree.parent?_of_mem_namedChildren (List.mem_of_mem_filter h)

theorem isAt_literalExpression (value : Option Constant) (t : SyntaxTree) (n : NodeId) :
    (literalExpression value).IsAt t n := by
  cases value <;> trivial

theorem isAt_attributeExpression (u : CompilationUnit) (n : NodeId) :
    (attributeExpression u n).IsAt u.tree n := by
  unfold attributeExpression
  dsimp only
  split
  · trivial
  · split
    · next hobject _ => exact (SyntaxTree.parent?_of_child? hobject).1
    · trivial

theorem isAt_unaryExpression (u : CompilationUnit) (n : NodeId) :
    (unaryExpression u n).IsAt u.tree n := by
  unfold unaryExpression
  split
  · trivial
  · next hargument =>
    split
    · exact isAt_literalExpression _ u.tree n
    · exact (SyntaxTree.parent?_of_child? hargument).1
    · trivial

theorem isAt_parenthesized (u : CompilationUnit) (n : NodeId) :
    (((expressionsOf u n).head?.map Expression.wrapped).getD .unknown).IsAt u.tree n := by
  cases hinner : (expressionsOf u n).head? with
  | none => trivial
  | some inner => exact parent?_of_mem_expressionsOf (List.mem_of_mem_head? hinner)

theorem isAt_expression (u : CompilationUnit) (n : NodeId) : (expression u n).IsAt u.tree n := by
  unfold expression
  split
  case h_1 | h_2 | h_3 => exact isAt_literalExpression _ u.tree n
  case h_6 => cases resolveIdentifier? u n <;> trivial
  case h_7 => exact isAt_attributeExpression u n
  case h_8 => rfl
  case h_9 | h_10 => exact fun d hd => absurd hd List.not_mem_nil
  case h_11 => exact isAt_parenthesized u n
  case h_12 => exact isAt_unaryExpression u n
  all_goals trivial

theorem lt_size_of_mem_arguments {site : Site} (h : c ∈ arguments u site) : c < u.tree.size := by
  cases site with
  | invocation call =>
    replace h : c ∈ argumentsOf u call := h
    unfold argumentsOf at h
    split at h
    · cases h
    · obtain ⟨argument, hargument, h⟩ := List.mem_filterMap.mp h
      split at h
      · exact u.tree.lt_size_of_child? h
      · exact Option.some.inj h ▸ lt_size_of_mem_expressionsOf hargument
  | construction call => cases h
  | enumSelection call => cases h

theorem lt_size_of_receiver? {site : Site} (h : receiver? u site = some c) : c < u.tree.size := by
  cases site with
  | invocation call =>
    simp only [receiver?, Option.bind_eq_bind, Option.bind_eq_some_iff] at h
    obtain ⟨function, -, _, -, hobject⟩ := h
    exact u.tree.lt_size_of_child? hobject
  | construction call => cases h
  | enumSelection call => cases h

theorem lt_size_of_initializer? {s : Symbol} (h : initializer? u s = some c) :
    c < u.tree.size := by
  simp only [initializer?, Option.bind_eq_bind, Option.bind_eq_some_iff] at h
  obtain ⟨assignment, -, _, -, _, -, hright⟩ := h
  exact u.tree.lt_size_of_child? hright

theorem lt_size_of_mem_assignments {s : Symbol} (h : c ∈ assignments u s) : c < u.tree.size := by
  obtain ⟨n, -, h⟩ := List.mem_filterMap.mp h
  simp only [valueAssignedTo?, Option.bind_eq_bind, Option.bind_eq_some_iff] at h
  obtain ⟨_, -, left, -, right, hright, _, -, target, -, _, -, heq⟩ := h
  exact Option.some.inj heq ▸ u.tree.lt_size_of_child? hright

theorem lt_size_of_mem_methodReturns {method : NodeId} (h : c ∈ methodReturns u method) :
    c < u.tree.size := by
  unfold methodReturns at h
  split at h
  · cases h
  · obtain ⟨statement, -, h⟩ := List.mem_filterMap.mp h
    exact lt_size_of_head_expressionsOf h

end Python

/-! ## Either language -/

namespace CompilationUnit

variable {u : CompilationUnit} {n c : NodeId}

/-- Every expression stands above its parts. -/
theorem isAt_expression (u : CompilationUnit) (n : NodeId) :
    (u.expression n).IsAt u.tree n := by
  unfold expression
  split
  · exact Java.isAt_expression u n
  · exact Python.isAt_expression u n

/-- What is inside an expression is a node of the tree. -/
theorem lt_size_of_mem_parts (h : c ∈ (u.expression n).parts) : c < u.tree.size :=
  (u.isAt_expression n).lt_size_of_mem_parts h

theorem lt_size_of_mem_arguments {site : Site} (h : c ∈ u.arguments site) : c < u.tree.size := by
  unfold arguments at h
  split at h
  · exact Java.lt_size_of_mem_arguments h
  · exact Python.lt_size_of_mem_arguments h

theorem lt_size_of_receiver? {site : Site} (h : u.receiver? site = some c) : c < u.tree.size := by
  unfold receiver? at h
  split at h
  · exact Java.lt_size_of_receiver? h
  · exact Python.lt_size_of_receiver? h

theorem lt_size_of_initializer? {s : Symbol} (h : u.initializer? s = some c) :
    c < u.tree.size := by
  unfold initializer? at h
  split at h
  · exact Java.lt_size_of_initializer? h
  · exact Python.lt_size_of_initializer? h

theorem lt_size_of_mem_assignments {s : Symbol} (h : c ∈ u.assignments s) : c < u.tree.size := by
  unfold assignments at h
  split at h
  · exact Java.lt_size_of_mem_assignments h
  · exact Python.lt_size_of_mem_assignments h

theorem lt_size_of_mem_methodReturns {method : NodeId} (h : c ∈ u.methodReturns method) :
    c < u.tree.size := by
  unfold methodReturns at h
  split at h
  · exact Java.lt_size_of_mem_methodReturns h
  · exact Python.lt_size_of_mem_methodReturns h

theorem lt_size_of_mem_enumConstantArguments {constant : NodeId}
    (h : c ∈ u.enumConstantArguments constant) : c < u.tree.size := by
  unfold enumConstantArguments at h
  split at h
  · exact Java.lt_size_of_mem_argumentsOf h
  · cases h

end CompilationUnit
end CryptoUsage
