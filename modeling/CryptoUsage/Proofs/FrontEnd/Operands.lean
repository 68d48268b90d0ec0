import CryptoUsage.Proofs.FrontEnd.Nodes
import CryptoUsage.Proofs.Resolution.Flow

/-!
# Operands of Java expressions

Parentheses and casts, member accesses and calls are about one expression below them, their
operand, and select nothing or one name on it (`operand?`).  What is asked of such an expression
is asked of its operand, with the name recorded.

Nobody else asks an operand.  What a variable is declared with or assigned, what a method returns,
the arguments of calls and the sizes of arrays are operands of nothing (`IsFree`): the node above
them is a declarator, an assignment, a `return`, a list or a pair of brackets.  So the values of
an operand only flow to the expression around it (`Flow.operand_or_free`).

## What is here

* Nodes that hold expressions.  `holderKinds` lists the kinds, and a node of one of these is no
  expression itself (`expression_of_holder`).  Whatever the unit names as a value stands below
  such a node (`isHeld_of_initializer?`, `isHeld_of_mem_arguments` and the others); for arguments
  it has to be known that the slot holds a list (`ListsArguments`).
* Operands.  An operand stands right below the expression that is about it
  (`parent?_of_operand?`), so it is that of one expression only (`operand?_inj`), and what stands
  below a node that is no expression is free (`isFree_of_isHeld`).
* Flow.  By cases on how a query leads to another one: either along an operand, or to something
  that is held.
-/

set_option autoImplicit false

namespace CryptoUsage

/-! ## Nodes that hold expressions -/

namespace Java

/-- The kinds of the nodes that hold expressions and are none themselves. -/
def holderKinds : List String :=
  ["variable_declarator", "assignment_expression", "return_statement", "dimensions_expr",
    "argument_list", "annotation_argument_list"]

/-- In the slot for arguments stands a list of them. -/
def ListsArguments (t : SyntaxTree) : Prop :=
  ∀ n < t.size, t.field? n = some "arguments" →
    t.kind n = "argument_list" ∨ t.kind n = "annotation_argument_list"

instance (t : SyntaxTree) : Decidable (ListsArguments t) :=
  inferInstanceAs (Decidable (∀ n < t.size, t.field? n = some "arguments" →
    t.kind n = "argument_list" ∨ t.kind n = "annotation_argument_list"))

/-- A node stands right below one that holds expressions. -/
def IsHeld (t : SyntaxTree) (c : NodeId) : Prop :=
  ∃ p, t.parent? c = some p ∧ t.kind p ∈ holderKinds

variable {u : CompilationUnit} {n c : NodeId} {site : Site}

theorem expression_of_holder (h : u.tree.kind n ∈ holderKinds) : expression u n = .unknown := by
  simp only [holderKinds, List.mem_cons, List.not_mem_nil, or_false] at h
  rcases h with h | h | h | h | h | h <;>
    simp [expression, literal?, isIn, h, Category.holds, Category.kinds, Category.javaKinds]

theorem isHeld_of_child? {slot : String} (hkind : u.tree.kind n ∈ holderKinds)
    (h : u.tree.child? n slot = some c) : IsHeld u.tree c :=
  ⟨n, (SyntaxTree.parent?_of_child? h).1, hkind⟩

theorem isHeld_of_mem_expressionsOf (hkind : u.tree.kind n ∈ holderKinds)
    (h : c ∈ expressionsOf u n) : IsHeld u.tree c :=
  ⟨n, parent?_of_mem_expressionsOf h, hkind⟩

theorem isHeld_of_initializer? {s : Symbol} (h : initializer? u s = some c) :
    IsHeld u.tree c := by
  unfold initializer? at h
  split at h
  · next hkind => exact isHeld_of_child? (by rw [hkind]; decide) h
  · cases h

theorem isHeld_of_mem_assignments {s : Symbol} (h : c ∈ assignments u s) : IsHeld u.tree c := by
  obtain ⟨n, -, h⟩ := List.mem_filterMap.mp h
  simp only [valueAssignedTo?, Option.bind_eq_bind, Option.bind_eq_some_iff,
    Option.guard_eq_some'] at h
  obtain ⟨_, hplain, left, -, right, hright, target, -, _, -, heq⟩ := h
  obtain rfl := Option.some.inj heq
  have hkind : u.tree.kind n = "assignment_expression" :=
    beq_iff_eq.mp (Bool.and_eq_true_iff.mp hplain).1
  exact isHeld_of_child? (by rw [hkind]; decide) hright

theorem isHeld_of_mem_methodReturns {method : NodeId} (h : c ∈ methodReturns u method) :
    IsHeld u.tree c := by
  unfold methodReturns at h
  split at h
  · cases h
  · obtain ⟨n, hn, h⟩ := List.mem_filterMap.mp h
    have hkind : u.tree.kind n = "return_statement" := beq_iff_eq.mp (List.mem_filter.mp hn).2
    exact isHeld_of_mem_expressionsOf (by rw [hkind]; decide) (List.mem_of_mem_head? h)

theorem isHeld_of_mem_argumentsOf (hlists : ListsArguments u.tree) (h : c ∈ argumentsOf u n) :
    IsHeld u.tree c := by
  unfold argumentsOf at h
  split at h
  · next list hlist =>
    obtain ⟨hparent, hfield⟩ := SyntaxTree.parent?_of_child? hlist
    have hkind : u.tree.kind list ∈ holderKinds := by
      rcases hlists list (u.tree.lt_size_of_parent? hparent) hfield with hkind | hkind
      · rw [hkind]; decide
      · rw [hkind]; decide
    exact isHeld_of_mem_expressionsOf hkind h
  · cases h

theorem isHeld_of_mem_arguments (hlists : ListsArguments u.tree) (h : c ∈ arguments u site) :
    IsHeld u.tree c := by
  cases site with
  | invocation n => exact isHeld_of_mem_argumentsOf hlists h
  | construction n => exact isHeld_of_mem_argumentsOf hlists h
  | enumSelection n => cases h

theorem parent?_of_receiver? (h : receiver? u site = some c) :
    u.tree.parent? c = some site.node := by
  cases site with
  | invocation n => exact (SyntaxTree.parent?_of_child? h).1
  | construction n => cases h
  | enumSelection n => cases h

end Java

namespace CompilationUnit

/-! ## Operands -/

section Operands

variable (u : CompilationUnit)

/-- The expression that an expression is about, and the names that it selects on it. -/
def operand? (n : NodeId) : Option (NodeId × List String) :=
  match u.expression n with
  | .wrapped inner => some (inner, [])
  | .member object name => some (object, [name])
  | .call site => do
    let receiver ← u.receiver? site
    let name ← u.methodName? site
    return (receiver, [name])
  | _ => none

/-- An expression is the operand of nothing. -/
def IsFree (c : NodeId) : Prop := ∀ n names, u.operand? n ≠ some (c, names)

/-- The arguments in frames are operands of nothing. -/
def BindFree (frames : List Frame) : Prop := ∀ frame ∈ frames, ∀ binding ∈ frame, u.IsFree binding.2

end Operands

variable {u : CompilationUnit} {n n' c : NodeId} {names names' : List String} {s : Symbol}

theorem operand?_of_call {site : Site} {receiver : NodeId} {name : String}
    (h : u.expression n = .call site) (hreceiver : u.receiver? site = some receiver)
    (hname : u.methodName? site = some name) : u.operand? n = some (receiver, [name]) := by
  simp only [operand?, h, hreceiver, hname]
  rfl

section Java

variable (hjava : u.language = .java)

include hjava

theorem expression_of_java (n : NodeId) : u.expression n = Java.expression u n := by
  rw [expression, hjava]

/-- An operand stands right below the expression that is about it. -/
theorem parent?_of_operand? (h : u.operand? n = some (c, names)) : u.tree.parent? c = some n := by
  have hat := u.isAt_expression n
  unfold operand? at h
  split at h
  · next hshape =>
    rw [hshape] at hat
    cases h
    exact hat
  · next hshape =>
    rw [hshape] at hat
    cases h
    exact hat
  · next site hshape =>
    rw [hshape] at hat
    simp only [Option.bind_eq_bind, Option.bind_eq_some_iff] at h
    obtain ⟨receiver, hreceiver, _, -, heq⟩ := h
    cases heq
    rw [receiver?, hjava] at hreceiver
    rw [Java.parent?_of_receiver? hreceiver]
    exact congrArg some hat
  · cases h

/-- An operand is that of one expression only. -/
theorem operand?_inj (h : u.operand? n = some (c, names)) (h' : u.operand? n' = some (c, names')) :
    n = n' ∧ names = names' := by
  have hparent := parent?_of_operand? hjava h
  rw [parent?_of_operand? hjava h'] at hparent
  obtain rfl := Option.some.inj hparent
  rw [h] at h'
  exact ⟨rfl, congrArg Prod.snd (Option.some.inj h')⟩

theorem isFree_of_isHeld (h : Java.IsHeld u.tree c) : u.IsFree c := by
  intro n names hoperand
  obtain ⟨p, hparent, hkind⟩ := h
  rw [parent?_of_operand? hjava hoperand] at hparent
  obtain rfl := Option.some.inj hparent
  rw [operand?, expression_of_java hjava, Java.expression_of_holder hkind] at hoperand
  cases hoperand

theorem isFree_of_mem_valueSources (h : c ∈ u.valueSources s) : u.IsFree c := by
  refine isFree_of_isHeld hjava ?_
  unfold valueSources initializer? assignments at h
  simp only [hjava] at h
  rcases List.mem_append.mp h with h | h
  · exact Java.isHeld_of_initializer? (Option.mem_toList.mp h)
  · exact Java.isHeld_of_mem_assignments h

theorem isFree_of_mem_methodReturns {method : NodeId} (h : c ∈ u.methodReturns method) :
    u.IsFree c := by
  rw [methodReturns, hjava] at h
  exact isFree_of_isHeld hjava (Java.isHeld_of_mem_methodReturns h)

theorem isFree_of_mem_dimensions {dimensions : List NodeId} {rank : Nat} {elements : Option Nat}
    (h : u.expression n = .arrayCreation dimensions rank elements) (hc : c ∈ dimensions) :
    u.IsFree c := by
  have hat := u.isAt_expression n
  rw [h] at hat
  obtain ⟨p, hparent, hkind⟩ := hat c hc
  exact isFree_of_isHeld hjava ⟨p, hparent, by rw [hkind]; decide⟩

variable (hlists : Java.ListsArguments u.tree)

include hlists

theorem isFree_of_mem_arguments {site : Site} (h : c ∈ u.arguments site) : u.IsFree c := by
  rw [arguments, hjava] at h
  exact isFree_of_isHeld hjava (Java.isHeld_of_mem_arguments hlists h)

theorem isFree_of_mem_enumConstantArguments {constant : NodeId}
    (h : c ∈ u.enumConstantArguments constant) : u.IsFree c := by
  rw [enumConstantArguments, hjava] at h
  exact isFree_of_isHeld hjava (Java.isHeld_of_mem_argumentsOf hlists h)

/-- Whatever flows to an expression comes from its operand, with the names recorded that are
selected on it, or else from an operand of nothing. -/
theorem Flow.operand_or_free {factory : ValueFactory} {kept : List String → List String}
    {q q' : Query} (h : Flow u factory kept q q') (hq : u.BindFree q.frames) :
    u.BindFree q'.frames ∧
      ((∃ names, u.operand? q.node = some (q'.node, names) ∧
          q'.selections = q.selections ++ names) ∨ u.IsFree q'.node) := by
  cases h with
  | wrapper shape =>
    exact ⟨hq, .inl ⟨[], by simp only [operand?, shape], (List.append_nil _).symm⟩⟩
  | initializer shape free declared =>
    exact ⟨hq, .inr (isFree_of_mem_valueSources hjava
      (List.mem_append_left _ (Option.mem_toList.mpr declared)))⟩
  | assignment shape free assigned =>
    exact ⟨hq, .inr (isFree_of_mem_valueSources hjava (List.mem_append_right _ assigned))⟩
  | argument shape bound =>
    obtain ⟨hframe, houter⟩ := List.forall_mem_cons.mp hq
    obtain ⟨binding, hfind, rfl⟩ := Option.map_eq_some_iff.mp bound
    exact ⟨houter, .inr (hframe binding (List.mem_of_find?_eq_some hfind))⟩
  | member shape => exact ⟨hq, .inl ⟨_, by simp only [operand?, shape], rfl⟩⟩
  | receiver shape on called => exact ⟨hq, .inl ⟨_, operand?_of_call shape on called, rfl⟩⟩
  | construction shape single =>
    exact ⟨hq, .inr (isFree_of_mem_arguments hjava hlists
      (single ▸ List.mem_singleton_self _))⟩
  | returned shape defined returns =>
    refine ⟨List.forall_mem_cons.mpr ⟨fun binding hbinding => ?_, hq⟩,
      .inr (isFree_of_mem_methodReturns hjava returns)⟩
    exact isFree_of_mem_arguments hjava hlists (List.of_mem_zip hbinding).2
  | accessor shape selects =>
    obtain ⟨_, -, _, _, -, -, -, hargument⟩ := selects
    exact ⟨hq, .inr (isFree_of_mem_enumConstantArguments hjava hlists
      (List.mem_of_getElem? hargument))⟩
  | dimension size shape =>
    exact ⟨hq, .inr (isFree_of_mem_dimensions hjava shape (List.mem_singleton_self _))⟩

end Java

end CompilationUnit
end CryptoUsage
