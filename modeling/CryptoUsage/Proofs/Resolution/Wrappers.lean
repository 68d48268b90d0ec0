import CryptoUsage.Detection.Plan

/-!
# Parameters inside wrappers

An argument may be a parameter of the method around it, inside parentheses and casts.  Within what
has been read so far such an argument has no value (`resolveValue_of_parameter`), and what there
is to wait for is a call of the method, for its argument at the place of the parameter
(`planHooks_of_parameter`).

This is where hooks on parameters come from: the values of a root that waits for later callers are
looked for at such an argument.

## How it goes

* Counting wrappers.  `Wraps` says that an expression is a variable inside so many wrappers.
  Taking wrappers off ends at a variable only if it went through each of them (`exists_wraps`),
  and the number of wrappers is a function of the node (`Wraps.count_eq`).
* Cycles.  Both searches refuse to enter a node of their own path.  On the way inwards the numbers
  of wrappers go down, so the nodes of the path have more of them than the node at hand, and none
  is met twice (`Wraps.not_contains`).
* The two searches.  By induction on the number of wrappers, the search for values comes to the
  variable and finds nothing, since no frame binds the parameter (`Wraps.resolveWithin_eq_nil`);
  and the search for plans comes to the variable and plans one hook (`Wraps.planWithin_eq`),
  provided that there are enough steps for all wrappers.
-/

set_option autoImplicit false

namespace CryptoUsage
namespace CompilationUnit

variable {u : CompilationUnit} {s s' : Symbol} {n : NodeId} {count count' steps : Nat}

/-- Inside so many wrappers, an expression is a variable. -/
inductive Wraps (u : CompilationUnit) (s : Symbol) : Nat → NodeId → Prop
  | here {n : NodeId} (isVariable : u.expression n = .variable s) : Wraps u s 0 n
  | inside {n inner : NodeId} {count : Nat} (isWrapped : u.expression n = .wrapped inner)
      (wraps : Wraps u s count inner) : Wraps u s (count + 1) n

/-- What is inside the wrappers is found within as many steps as there are wrappers. -/
theorem exists_wraps (h : u.expression (u.unwrapWithin steps n) = .variable s) :
    ∃ count ≤ steps, u.Wraps s count n := by
  induction steps generalizing n with
  | zero => exact ⟨0, Nat.le_refl 0, .here h⟩
  | succ steps ih =>
    rw [unwrapWithin] at h
    split at h
    · next inner hinner =>
      obtain ⟨count, hle, hwraps⟩ := ih h
      exact ⟨count + 1, Nat.succ_le_succ hle, .inside hinner hwraps⟩
    · exact ⟨0, Nat.zero_le _, .here h⟩

theorem Wraps.count_eq (h : u.Wraps s count n) (h' : u.Wraps s' count' n) : count = count' := by
  induction h generalizing count' with
  | here hvariable =>
    cases h' with
    | here => rfl
    | inside hwrapped => cases hvariable.symm.trans hwrapped
  | inside hwrapped _ ih =>
    cases h' with
    | here hvariable => cases hvariable.symm.trans hwrapped
    | inside hwrapped' hwraps' =>
      cases hwrapped.symm.trans hwrapped'
      rw [ih hwraps']

/-- Nodes with more wrappers around a variable are other nodes. -/
theorem Wraps.not_contains (h : u.Wraps s count n) {path : List NodeId}
    (hpath : ∀ p ∈ path, ∃ more, count < more ∧ u.Wraps s more p) : path.contains n = false := by
  rw [← Bool.not_eq_true, List.contains_iff_mem]
  intro hmem
  obtain ⟨more, hlt, hwraps⟩ := hpath n hmem
  exact absurd (hwraps.count_eq h) (Nat.ne_of_gt hlt)

variable {config : ScanConfig} {factory : ValueFactory} {selections : List String}

/-- Outside of every call, a parameter has no value. -/
theorem Wraps.resolveWithin_eq_nil (h : u.Wraps s count n) (hkind : s.kind = .parameter)
    (steps : Nat) (path : List NodeId) :
    u.resolveWithin config factory steps path [] selections n = [] := by
  induction h generalizing steps path with
  | here hvariable =>
    cases steps with
    | zero => rfl
    | succ steps =>
      simp only [resolveWithin, hvariable]
      split
      · rfl
      · exact if_pos hkind
  | inside hwrapped _ ih =>
    cases steps with
    | zero => rfl
    | succ steps =>
      simp only [resolveWithin, hwrapped]
      split
      · rfl
      · exact ih steps _

/-- A parameter is waited for by a call of its method.  The nodes passed on the way have more
wrappers around the parameter, so none is met twice. -/
theorem Wraps.planWithin_eq (h : u.Wraps s count n) (hkind : s.kind = .parameter)
    (henum : u.enumTypeOf? s = none) {method : NodeId} {place : Nat}
    (hplace : u.parameterPosition? s = some (method, place)) {size : Bool}
    (hsteps : count < steps) {path : List NodeId}
    (hpath : ∀ p ∈ path, ∃ more, count < more ∧ u.Wraps s more p) :
    u.planWithin config size steps path selections n = [.parameter method place selections] := by
  induction h generalizing steps path with
  | @here n hvariable =>
    obtain ⟨steps, rfl⟩ := Nat.exists_eq_add_one_of_ne_zero (Nat.ne_zero_of_lt hsteps)
    have hnew := (Wraps.here hvariable).not_contains hpath
    simp only [planWithin, hnew, Bool.false_eq_true, if_false, hvariable, planShape, planVariable,
      henum, hkind, hplace, Option.map_some, Option.toList_some]
  | @inside n inner count hwrapped hwraps ih =>
    obtain ⟨steps, rfl⟩ := Nat.exists_eq_add_one_of_ne_zero (Nat.ne_zero_of_lt hsteps)
    have hnew := (Wraps.inside hwrapped hwraps).not_contains hpath
    simp only [planWithin, hnew, Bool.false_eq_true, if_false, hwrapped, planShape]
    refine ih (Nat.lt_of_succ_lt_succ hsteps) fun p hp => ?_
    rcases List.mem_cons.mp hp with rfl | hp
    · exact ⟨count + 1, Nat.lt_succ_self _, .inside hwrapped hwraps⟩
    · obtain ⟨more, hlt, hwraps'⟩ := hpath p hp
      exact ⟨more, Nat.lt_of_succ_lt hlt, hwraps'⟩

/-- Inside as many wrappers as are looked through, an argument that is a parameter has no value. -/
theorem resolveValue_of_parameter (h : u.expression (u.unwrap config n) = .variable s)
    (hkind : s.kind = .parameter) : u.resolveValue config factory selections n = [] := by
  obtain ⟨count, -, hwraps⟩ := exists_wraps h
  exact hwraps.resolveWithin_eq_nil hkind _ _

/-- And it is waited for by a call of its method. -/
theorem planHooks_of_parameter (h : u.expression (u.unwrap config n) = .variable s)
    (hkind : s.kind = .parameter) (henum : u.enumTypeOf? s = none) {method : NodeId}
    {place : Nat} (hplace : u.parameterPosition? s = some (method, place)) (size : Bool) :
    u.planHooks config size selections n = [.parameter method place selections] := by
  obtain ⟨count, hle, hwraps⟩ := exists_wraps h
  exact hwraps.planWithin_eq hkind henum hplace (Nat.lt_succ_of_le hle) nofun

end CompilationUnit
end CryptoUsage
