import CryptoUsage.Detection.Resolution
import CryptoUsage.Proofs.FrontEnd.Nodes

/-!
# Where arguments stand

The arguments of a call stand in the list that hangs under the call, and one that is given by name
stands one level deeper, as the value of the pair that names it (`ancestors_of_mem_arguments`).
What is inside the parentheses and casts around an expression stands below them, one level for
each (`Encloses.ancestors_eq`).

So it is known how far above an expression the call stands to which it is handed.  An analysis
that asks whether the result of a call is handed on looks at a fixed number of nodes above it, and
with these two facts its answer can be computed.

## What is here

* Wrappers.  An expression that wraps another one stands right above it (`parent?_of_wrapped`),
  and a site wraps nothing (`expression_ne_wrapped_of_site?`).  `Encloses` counts wrappers.
  Looking through wrappers with some number of steps finds what is inside at most so many
  (`exists_encloses`), and what wraps nothing itself is found if the steps suffice
  (`Encloses.unwrapWithin_eq`).
* Arguments.  There are two cases, an argument in the list itself (`ancestors_of_mem_list`) and
  one in a pair in the list (`ancestors_of_mem_pair`); `isNamedArgument` tells them apart, so the
  number of nodes in between can be given for both at once.
-/

set_option autoImplicit false

namespace CryptoUsage

/-! ## Wrappers -/

namespace Java

variable {u : CompilationUnit} {n inner : NodeId}

theorem fieldExpression_ne_wrapped (u : CompilationUnit) (n inner : NodeId) :
    fieldExpression u n ≠ .wrapped inner := by
  unfold fieldExpression
  split
  · exact Expression.noConfusion
  · split
    · dsimp only
      split <;> exact Expression.noConfusion
    · exact Expression.noConfusion

/-- A site wraps nothing. -/
theorem expression_ne_wrapped_of_site? {site : Site} (h : site? u n = some site)
    (inner : NodeId) : expression u n ≠ .wrapped inner := by
  intro hwrapped
  have hliteral : literal? u n = none := by
    unfold expression at hwrapped
    split at hwrapped
    · cases hwrapped
    · next hnone => exact hnone
  simp only [expression, hliteral] at hwrapped
  unfold site? at h
  split at h
  · next hkind => simp only [hkind] at hwrapped; cases hwrapped
  · next hkind => simp only [hkind] at hwrapped; cases hwrapped
  · next hkind =>
    simp only [hkind] at hwrapped
    exact fieldExpression_ne_wrapped u n inner hwrapped
  · cases h

end Java

namespace Python

variable {u : CompilationUnit} {n inner : NodeId}

/-- A site wraps nothing. -/
theorem expression_ne_wrapped_of_site? {site : Site} (h : site? u n = some site)
    (inner : NodeId) : expression u n ≠ .wrapped inner := by
  unfold site? at h
  split at h
  · next hkind =>
    simp only [expression, hkind]
    exact Expression.noConfusion
  · cases h

end Python

namespace CompilationUnit

variable {u : CompilationUnit} {n inner core : NodeId} {count steps : Nat} {site : Site}

/-- What is wrapped stands below the wrapper. -/
theorem parent?_of_wrapped (h : u.expression n = .wrapped inner) :
    u.tree.parent? inner = some n := by
  have hat := u.isAt_expression n
  rwa [h] at hat

theorem expression_ne_wrapped_of_site? (h : u.site? n = some site) (inner : NodeId) :
    u.expression n ≠ .wrapped inner := by
  unfold site? at h
  unfold expression
  split at h
  · exact Java.expression_ne_wrapped_of_site? h inner
  · exact Python.expression_ne_wrapped_of_site? h inner

/-- Inside so many wrappers, an expression is the other one. -/
inductive Encloses (u : CompilationUnit) : Nat → NodeId → NodeId → Prop
  | here (n : NodeId) : Encloses u 0 n n
  | inside {n inner core : NodeId} {count : Nat} (isWrapped : u.expression n = .wrapped inner)
      (encloses : Encloses u count inner core) : Encloses u (count + 1) n core

/-- What is found inside the wrappers is within as many as are looked through. -/
theorem exists_encloses (u : CompilationUnit) (steps : Nat) (n : NodeId) :
    ∃ count ≤ steps, u.Encloses count n (u.unwrapWithin steps n) := by
  induction steps generalizing n with
  | zero => exact ⟨0, Nat.le_refl 0, .here n⟩
  | succ steps ih =>
    rw [unwrapWithin]
    split
    · next inner hinner =>
      obtain ⟨count, hle, hencloses⟩ := ih inner
      exact ⟨count + 1, Nat.succ_le_succ hle, .inside hinner hencloses⟩
    · exact ⟨0, Nat.zero_le _, .here n⟩

/-- What wraps nothing itself is found if enough wrappers are looked through. -/
theorem Encloses.unwrapWithin_eq (h : u.Encloses count n core)
    (hcore : ∀ inner, u.expression core ≠ .wrapped inner) (hle : count ≤ steps) :
    u.unwrapWithin steps n = core := by
  induction h generalizing steps with
  | here n =>
    cases steps with
    | zero => rfl
    | succ steps =>
      rw [unwrapWithin]
      split
      · next inner hinner => exact absurd hinner (hcore inner)
      · rfl
  | inside hwrapped _ ih =>
    obtain ⟨steps, rfl⟩ := Nat.exists_eq_add_one_of_ne_zero (Nat.ne_zero_of_lt hle)
    rw [unwrapWithin, hwrapped]
    exact ih hcore (Nat.le_of_succ_le_succ hle)

/-- Above what is inside so many wrappers stand the wrappers, and then what stands above the whole
expression. -/
theorem Encloses.ancestors_eq (h : u.Encloses count n core) :
    ∃ wrappers, wrappers.length = count ∧
      u.tree.ancestors core = wrappers ++ u.tree.ancestors n := by
  induction h with
  | here n => exact ⟨[], rfl, rfl⟩
  | @inside n inner core count hwrapped _ ih =>
    obtain ⟨wrappers, rfl, heq⟩ := ih
    refine ⟨wrappers ++ [n], by rw [List.length_append]; rfl, ?_⟩
    rw [heq, SyntaxTree.ancestors_of_parent? (parent?_of_wrapped hwrapped), List.append_assoc]
    rfl

/-! ## Arguments -/

variable {call : Site} {argument : NodeId}

/-- An argument is given by name: it does not hang in the list of arguments itself. -/
def isNamedArgument (u : CompilationUnit) (call : Site) (argument : NodeId) : Bool :=
  u.tree.parent? argument != u.tree.child? call.node "arguments"

theorem ancestors_of_mem_list {list : NodeId}
    (hlist : u.tree.child? call.node "arguments" = some list)
    (h : u.tree.parent? argument = some list) :
    u.isNamedArgument call argument = false ∧
      u.tree.ancestors argument = [list] ++ call.node :: u.tree.ancestors call.node := by
  refine ⟨by rw [isNamedArgument, h, hlist, bne_self_eq_false], ?_⟩
  rw [SyntaxTree.ancestors_of_parent? h,
    SyntaxTree.ancestors_of_parent? (SyntaxTree.parent?_of_child? hlist).1]
  rfl

theorem ancestors_of_mem_pair {list pair : NodeId}
    (hlist : u.tree.child? call.node "arguments" = some list)
    (hpair : u.tree.parent? pair = some list) (h : u.tree.parent? argument = some pair) :
    u.isNamedArgument call argument = true ∧
      u.tree.ancestors argument = [pair, list] ++ call.node :: u.tree.ancestors call.node := by
  have hne : some pair ≠ some list := fun heq =>
    Nat.ne_of_gt (u.tree.parent?_lt hpair) (Option.some.inj heq)
  refine ⟨by rw [isNamedArgument, h, hlist, bne_iff_ne]; exact hne, ?_⟩
  rw [SyntaxTree.ancestors_of_parent? h, (ancestors_of_mem_list hlist hpair).2]
  rfl

/-- Between an argument and its call stands the list of arguments, and the pair that names the
argument if there is one. -/
theorem ancestors_of_mem_arguments (h : argument ∈ u.arguments call) :
    ∃ between, between.length = 1 + (u.isNamedArgument call argument).toNat ∧
      u.tree.ancestors argument = between ++ call.node :: u.tree.ancestors call.node := by
  have hpositional : ∀ {list}, u.tree.child? call.node "arguments" = some list →
      u.tree.parent? argument = some list →
      ∃ between, between.length = 1 + (u.isNamedArgument call argument).toNat ∧
        u.tree.ancestors argument = between ++ call.node :: u.tree.ancestors call.node := by
    intro list hlist hparent
    obtain ⟨hnamed, heq⟩ := ancestors_of_mem_list hlist hparent
    exact ⟨_, by rw [hnamed]; rfl, heq⟩
  unfold arguments at h
  split at h
  · have hof : argument ∈ Java.argumentsOf u call.node := by
      cases call with
      | enumSelection => cases h
      | _ => exact h
    unfold Java.argumentsOf at hof
    split at hof
    · next list hlist => exact hpositional hlist (Java.parent?_of_mem_expressionsOf hof)
    · cases hof
  · have hof : argument ∈ Python.argumentsOf u call.node := by
      cases call with
      | invocation => exact h
      | _ => cases h
    unfold Python.argumentsOf at hof
    split at hof
    · cases hof
    · next list hlist =>
      obtain ⟨given, hgiven, hvalue⟩ := List.mem_filterMap.mp hof
      have hparent := Python.parent?_of_mem_expressionsOf hgiven
      split at hvalue
      · obtain ⟨hnamed, heq⟩ := ancestors_of_mem_pair hlist hparent
          (SyntaxTree.parent?_of_child? hvalue).1
        exact ⟨_, by rw [hnamed]; rfl, heq⟩
      · cases hvalue
        exact hpositional hlist hparent

end CompilationUnit
end CryptoUsage
