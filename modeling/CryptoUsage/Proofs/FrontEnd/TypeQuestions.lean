import CryptoUsage.Detection.Matching
import CryptoUsage.Proofs.FrontEnd.Nodes
import Mathlib.Data.Finset.Card
import Mathlib.Data.Finset.Range

/-!
# Questions about types, and when they end

The type of an expression may depend on the type of another one, and so on, and there are units in
which it comes to depend on itself.  An analysis that asks for such a type does not return.  The
queries of a unit follow the dependencies for one step more than there are nodes and then give up
(`Answer.endless`).  This file shows that this is the same as following them for ever, and what the
answers are in a unit in which all of them end.

The argument has a part that knows nothing of grammars.  A question leads on to others by some
`next`, and all that matters of it is said by `Answer.Finitary`: to know more about other
questions never changes an answer (`mono`), and a number that is no node leads on to nothing
(`outside`).  So with every step the answers that have come stay as they are and others come
(`refines_succ`).  A step with which no other comes is the last one (`within_succ_eq`), since from
then on every question is asked of the same answers; and because there are only so many nodes,
there is such a step among the first (`within_size_succ`).  Hence nothing changes after `size + 1`
steps (`within_of_le`), and a question that is unanswered then stays so (`exists_ends_iff`).

The second part goes through the definitions of both languages once to see that they are of this
kind.  In each of them a question is only ever passed on, or asked about the answer to another one,
so `Refines` goes through (`Java.finitary_expressionTypeBy`, `Python.finitary_qualifiedCalleeBy`).

`CompilationUnit.TypesEnd` says that every question of a unit ends, without a word on steps.  By the
first part it can be checked (`typesEnd_iff`), and it fails for a loop as short as

    for h in hs:
        h = h.digest()

Where it holds, everything has an answer that an analysis asks for and that depends on types: the
types on which sites act, those of their arguments and of variables, and the methods that calls
are dispatched to.  So every question whether a matcher matches has one too
(`TypesEnd.answer_eq`), which is what `MethodMatcher.matches` says.
-/

set_option autoImplicit false

namespace CryptoUsage
namespace Answer

variable {α β γ : Type}

/-- An answer says at least as much as another one: the other one was still to come, or is the
same. -/
def Refines (a b : Answer α) : Prop := a = endless ∨ a = b

theorem Refines.refl (a : Answer α) : a.Refines a := .inr rfl

theorem Refines.eq {a b : Answer α} (h : a.Refines b) (hends : a.ends = true) : a = b :=
  h.resolve_left (ends_iff.mp hends)

theorem Refines.ends {a b : Answer α} (h : a.Refines b) (hends : a.ends = true) :
    b.ends = true := h.eq hends ▸ hends

theorem Refines.bind {a b : Answer α} {f g : α → Answer β} (h : a.Refines b)
    (hnext : ∀ value, (f value).Refines (g value)) : (a.bind f).Refines (b.bind g) := by
  rcases h with rfl | rfl
  · exact .inl rfl
  · cases a with
    | endless => exact .inl rfl
    | unknown => exact .refl _
    | known value => exact hnext value

theorem ends_bind {a : Answer α} {f : α → Answer β} (h : a.ends = true)
    (hnext : ∀ value, (f value).ends = true) : (a.bind f).ends = true := by
  cases a with
  | endless => cases h
  | unknown => rfl
  | known value => exact hnext value

/-- What is made of an answer that is known. -/
def map (f : α → β) : Answer α → Answer β
  | endless => endless
  | unknown => unknown
  | known value => known (f value)

@[simp] theorem map_known (f : α → β) (value : α) : (known value).map f = known (f value) := rfl

@[simp] theorem map_unknown (f : α → β) : unknown.map f = unknown := rfl

@[simp] theorem map_endless (f : α → β) : endless.map f = endless := rfl

theorem ofOption_map (f : α → β) (value : Option α) :
    ofOption (value.map f) = (ofOption value).map f := by cases value <;> rfl

theorem map_bind (answer : Answer α) (next : α → Answer β) (f : β → γ) :
    (answer.bind next).map f = answer.bind fun value => (next value).map f := by
  cases answer <;> rfl

theorem bind_map (f : α → β) (answer : Answer α) (next : β → Answer γ) :
    (answer.map f).bind next = answer.bind fun value => next (f value) := by
  cases answer <;> rfl

theorem toOption_map (f : α → β) (answer : Answer α) :
    (answer.map f).toOption = answer.toOption.map f := by cases answer <;> rfl

/-- What comes of questions about nodes, `size` of them in number. -/
structure Finitary (size : Nat) (next : (NodeId → Answer α) → NodeId → Answer α) : Prop where
  /-- An answer that came does not change when others come. -/
  mono : ∀ {f g}, (∀ n, (f n).Refines (g n)) → ∀ n, (next f n).Refines (next g n)
  /-- Nothing is known of a number that is no node. -/
  outside : ∀ f {n}, size ≤ n → next f n = unknown

namespace Finitary

variable {size : Nat} {next : (NodeId → Answer α) → NodeId → Answer α}

theorem refines_succ (h : Finitary size next) (steps : Nat) (n : NodeId) :
    (within next steps n).Refines (within next (steps + 1) n) := by
  induction steps generalizing n with
  | zero => exact .inl rfl
  | succ steps ih => exact h.mono ih n

theorem refines_of_le (h : Finitary size next) {steps steps' : Nat} (hle : steps ≤ steps')
    (n : NodeId) : (within next steps n).Refines (within next steps' n) := by
  induction hle with
  | refl => exact .refl _
  | step _ ih =>
    rcases ih with hless | heq
    · exact .inl hless
    · exact heq ▸ h.refines_succ _ n

/-- The nodes whose questions are answered within so many steps. -/
def answered (size : Nat) (next : (NodeId → Answer α) → NodeId → Answer α) (steps : Nat) :
    Finset NodeId :=
  (Finset.range size).filter fun n => (within next steps n).ends = true

/-- A step that answers no further question is the last one. -/
theorem within_succ_eq (h : Finitary size next) {steps : Nat}
    (hcard : (answered size next (steps + 2)).card ≤ (answered size next (steps + 1)).card) :
    within next (steps + 2) = within next (steps + 1) := by
  have hsub : answered size next (steps + 1) ⊆ answered size next (steps + 2) := fun n hn => by
    simp only [answered, Finset.mem_filter] at hn ⊢
    exact ⟨hn.1, (h.refines_succ _ n).ends hn.2⟩
  have hsame := Finset.eq_of_subset_of_card_le hsub hcard
  funext n
  rcases Nat.lt_or_ge n size with hn | hn
  · rcases h.refines_succ (steps + 1) n with hless | heq
    · -- what is not answered now is not answered after the step either
      have hnot : n ∉ answered size next (steps + 2) := by
        rw [← hsame]
        simp [answered, hless]
      have hend : ¬ (within next (steps + 2) n).ends = true := by
        simpa [answered, hn] using hnot
      rw [hless]
      exact not_not.mp fun hne => hend (ends_iff.mpr hne)
    · exact heq.symm
  · exact (h.outside _ hn).trans (h.outside _ hn).symm

/-- After one step for each node there is such a step. -/
theorem within_size_succ (h : Finitary size next) :
    within next (size + 2) = within next (size + 1) := by
  have hgrow : ∀ steps, (∀ k ≤ steps, within next (k + 2) ≠ within next (k + 1)) →
      steps < (answered size next (steps + 2)).card := by
    intro steps hall
    induction steps with
    | zero =>
      have := mt h.within_succ_eq (hall 0 le_rfl)
      omega
    | succ steps ih =>
      have hbefore := ih fun k hk => hall k (by omega)
      have hmore : (answered size next (steps + 2)).card < (answered size next (steps + 3)).card :=
        Nat.lt_of_not_le (mt h.within_succ_eq (hall (steps + 1) le_rfl))
      show steps + 1 < (answered size next (steps + 3)).card
      omega
  by_contra hne
  have hall : ∀ k ≤ size, within next (k + 2) ≠ within next (k + 1) := by
    intro k hk heq
    have hlater : ∀ j, k ≤ j → within next (j + 2) = within next (j + 1) := by
      intro j hj
      induction hj with
      | refl => exact heq
      | step _ ih =>
        funext n
        exact congrFun (congrArg next ih) n
    exact hne (hlater size hk)
  have hle : (answered size next (size + 2)).card ≤ size := by
    simpa [answered] using Finset.card_filter_le (Finset.range size) _
  exact absurd (hgrow size hall) (Nat.not_lt_of_le hle)

/-- As many steps as there are nodes, and one more, are enough. -/
theorem within_of_le (h : Finitary size next) {steps : Nat} (hle : size + 1 ≤ steps) :
    within next steps = within next (size + 1) := by
  induction hle with
  | refl => rfl
  | step _ ih =>
    rw [← h.within_size_succ]
    funext n
    exact congrFun (congrArg next ih) n

/-- A question that is not answered then has no answer. -/
theorem exists_ends_iff (h : Finitary size next) {n : NodeId} :
    (∃ steps, (within next steps n).ends = true) ↔ (within next (size + 1) n).ends = true := by
  refine ⟨fun ⟨steps, hends⟩ => ?_, fun hends => ⟨_, hends⟩⟩
  rcases Nat.le_total steps (size + 1) with hle | hle
  · exact (h.refines_of_le hle n).ends hends
  · rwa [← h.within_of_le hle]

end Finitary
end Answer


namespace Java

variable {u : CompilationUnit} {f g : NodeId → Answer ObjectType}

theorem variableTypeBy_refines (h : ∀ n, (f n).Refines (g n)) (declaration : NodeId) :
    (variableTypeBy u f declaration).Refines (variableTypeBy u g declaration) := by
  refine Answer.Refines.bind (.refl _) fun holder => ?_
  split
  · refine Answer.Refines.bind (.refl _) fun typeNode => ?_
    split
    · exact Answer.Refines.bind (.refl _) fun value => h value
    · exact .refl _
  all_goals exact .refl _

theorem declaredTypeBy_refines (h : ∀ n, (f n).Refines (g n)) (s : Symbol) :
    (declaredTypeBy u f s).Refines (declaredTypeBy u g s) := by
  unfold declaredTypeBy
  split
  case h_3 | h_4 => exact variableTypeBy_refines h _
  all_goals exact .refl _

theorem receiverTypeBy_refines (h : ∀ n, (f n).Refines (g n)) (object : NodeId) :
    (receiverTypeBy u f object).Refines (receiverTypeBy u g object) := by
  unfold receiverTypeBy
  repeat' split
  all_goals first
    | exact .refl _
    | exact declaredTypeBy_refines h _
    | exact h object

theorem methodDefinitionBy_refines (h : ∀ n, (f n).Refines (g n)) (site : Site) :
    (methodDefinitionBy u f site).Refines (methodDefinitionBy u g site) := by
  unfold methodDefinitionBy
  split
  · refine Answer.Refines.bind (.refl _) fun name => ?_
    repeat' split
    all_goals first
      | exact .refl _
      | exact Answer.Refines.bind (receiverTypeBy_refines h _) fun receiver => .refl _
  · exact .refl _

theorem expressionTypeBy_refines (h : ∀ n, (f n).Refines (g n)) (n : NodeId) :
    (expressionTypeBy u f n).Refines (expressionTypeBy u g n) := by
  unfold expressionTypeBy
  repeat' split
  all_goals first
    | exact .refl _
    | exact receiverTypeBy_refines h _
    | exact Answer.Refines.bind (.refl _) fun symbol => declaredTypeBy_refines h symbol
    | exact Answer.Refines.bind (.refl _) fun inner => h inner
    | exact Answer.Refines.bind (methodDefinitionBy_refines h _) fun method => .refl _

theorem finitary_expressionTypeBy (u : CompilationUnit) :
    Answer.Finitary u.tree.size (expressionTypeBy u) where
  mono := expressionTypeBy_refines
  outside f n hn := by
    have hkind : u.tree.kind n = "" :=
      not_not.mp fun hne => Nat.not_lt_of_le hn (u.tree.lt_size_of_kind_ne hne)
    have hnone (category : Category) : isIn u category n = false := by
      rw [isIn, hkind]
      cases category <;> rfl
    simp [expressionTypeBy, hnone, hkind]

/-- The types of expressions when nothing is said of steps. -/
theorem expressionTypeOf_eq (u : CompilationUnit) :
    expressionTypeOf u = expressionTypeBy u (expressionTypeOf u) :=
  (finitary_expressionTypeBy u).within_size_succ.symm

theorem ends_declaredTypeBy (h : ∀ n, (f n).ends = true) (s : Symbol) :
    (declaredTypeBy u f s).ends = true := by
  have hvariable (declaration : NodeId) : (variableTypeBy u f declaration).ends = true := by
    refine Answer.ends_bind (Answer.ends_ofOption _) fun holder => ?_
    split
    · refine Answer.ends_bind (Answer.ends_ofOption _) fun typeNode => ?_
      split
      · exact Answer.ends_bind (Answer.ends_ofOption _) fun value => h value
      · rfl
    · split <;> simp
    · rfl
  unfold declaredTypeBy
  split <;> simp [hvariable]

theorem ends_receiverTypeBy (h : ∀ n, (f n).ends = true) (object : NodeId) :
    (receiverTypeBy u f object).ends = true := by
  unfold receiverTypeBy
  repeat' split
  case h_2 =>
    exact Answer.ends_bind (Answer.ends_ofOption _) fun owner =>
      Answer.ends_bind (Answer.ends_ofOption _) fun superclass =>
        Answer.ends_bind (Answer.ends_ofOption _) fun typeNode => rfl
  all_goals simp [h, ends_declaredTypeBy h]

theorem ends_methodDefinitionBy (h : ∀ n, (f n).ends = true) (site : Site) :
    (methodDefinitionBy u f site).ends = true := by
  unfold methodDefinitionBy
  split
  · refine Answer.ends_bind (Answer.ends_ofOption _) fun name => ?_
    split
    · simp
    · split
      · simp
      · refine Answer.ends_bind (ends_receiverTypeBy h _) fun receiver =>
          Answer.ends_bind (Answer.ends_ofOption _) fun owner => ?_
        split <;> simp
  · rfl

end Java

namespace Python

variable {u : CompilationUnit} {f g : NodeId → Answer String}

theorem valueTypeBy_refines (h : ∀ n, (f n).Refines (g n)) (levels : Nat) (n : NodeId) :
    (valueTypeBy u f levels n).Refines (valueTypeBy u g levels n) := by
  induction levels generalizing n with
  | zero => exact .refl _
  | succ levels ih =>
    unfold valueTypeBy
    split
    case h_7 => exact Answer.Refines.bind (h n) fun name => .refl _
    case h_8 => exact Answer.Refines.bind (.refl _) fun inner => ih inner
    case h_9 =>
      refine Answer.Refines.bind (.refl _) fun symbol =>
        Answer.Refines.bind (.refl _) fun value => ?_
      split
      · exact .refl _
      · exact ih value
    all_goals exact .refl _

theorem declaredTypeBy_refines (h : ∀ n, (f n).Refines (g n)) (s : Symbol) :
    (declaredTypeBy u f s).Refines (declaredTypeBy u g s) := by
  unfold declaredTypeBy
  split
  all_goals first
    | exact .refl _
    | exact Answer.Refines.bind (.refl _) fun value => valueTypeBy_refines h _ value

theorem receiverTypeBy_refines (h : ∀ n, (f n).Refines (g n)) (call object : NodeId) :
    (receiverTypeBy u f call object).Refines (receiverTypeBy u g call object) := by
  unfold receiverTypeBy
  dsimp only
  repeat' split
  all_goals first
    | exact .refl _
    | exact declaredTypeBy_refines h _
    | exact Answer.Refines.bind (h object) fun name => .refl _

theorem invokedObjectTypeBy_refines (h : ∀ n, (f n).Refines (g n)) (site : Site) :
    (invokedObjectTypeBy u f site).Refines (invokedObjectTypeBy u g site) := by
  unfold invokedObjectTypeBy
  split
  · refine Answer.Refines.bind (.refl _) fun function => ?_
    split
    · exact .refl _
    · exact Answer.Refines.bind (.refl _) fun object => receiverTypeBy_refines h _ object
    · exact .refl _
  · exact .refl _

theorem finitary_qualifiedCalleeBy (u : CompilationUnit) :
    Answer.Finitary u.tree.size (qualifiedCalleeBy u) where
  mono h n := Answer.Refines.bind (invokedObjectTypeBy_refines h _) fun owner => .refl _
  outside f n hn := by
    have hnone : u.tree.child? n "function" = none := by
      refine Option.eq_none_iff_forall_ne_some.mpr fun c hc => ?_
      have hbelow := u.tree.parent?_lt (SyntaxTree.parent?_of_child? hc).1
      exact Nat.not_lt_of_le hn (Nat.lt_trans hbelow (u.tree.lt_size_of_child? hc))
    simp [qualifiedCalleeBy, invokedObjectTypeBy, hnone]

/-- The names of what calls call when nothing is said of steps. -/
theorem qualifiedCalleeOf_eq (u : CompilationUnit) :
    qualifiedCalleeOf u = qualifiedCalleeBy u (qualifiedCalleeOf u) :=
  (finitary_qualifiedCalleeBy u).within_size_succ.symm

theorem ends_valueTypeBy (h : ∀ n, (f n).ends = true) (levels : Nat) (n : NodeId) :
    (valueTypeBy u f levels n).ends = true := by
  induction levels generalizing n with
  | zero => rfl
  | succ levels ih =>
    unfold valueTypeBy
    split
    case h_7 => exact Answer.ends_bind (h n) fun name => rfl
    case h_8 => exact Answer.ends_bind (Answer.ends_ofOption _) fun inner => ih inner
    case h_9 =>
      refine Answer.ends_bind (Answer.ends_ofOption _) fun symbol =>
        Answer.ends_bind (Answer.ends_ofOption _) fun value => ?_
      split <;> simp [ih]
    all_goals rfl

theorem ends_declaredTypeBy (h : ∀ n, (f n).ends = true) (s : Symbol) :
    (declaredTypeBy u f s).ends = true := by
  unfold declaredTypeBy
  split
  case h_2 | h_3 =>
    exact Answer.ends_bind (Answer.ends_ofOption _) fun value => ends_valueTypeBy h _ value
  all_goals simp

end Python

namespace CompilationUnit

variable (u : CompilationUnit)

/-- Whether the question about the type of an expression is answered when it leads on to others at
most `steps` times in a row.  In Python it is the question for the name of what a call calls, to
which all others come down. -/
def typeEndsWithin (steps : Nat) (n : NodeId) : Bool :=
  match u.language with
  | .java => (Java.expressionTypeWithin u steps n).ends
  | .python => (Python.qualifiedCalleeWithin u steps n).ends

/-- Every question about the type of an expression has an answer. -/
def TypesEnd : Prop := ∀ n, ∃ steps, u.typeEndsWithin steps n = true

variable {u}

theorem typeEndsWithin_size_succ (h : u.TypesEnd) (n : NodeId) :
    u.typeEndsWithin (u.tree.size + 1) n = true := by
  obtain ⟨steps, hends⟩ := h n
  unfold typeEndsWithin at hends ⊢
  cases hlanguage : u.language <;> simp only [hlanguage] at hends ⊢
  · exact (Java.finitary_expressionTypeBy u).exists_ends_iff.mp ⟨steps, hends⟩
  · exact (Python.finitary_qualifiedCalleeBy u).exists_ends_iff.mp ⟨steps, hends⟩

/-- Whether all questions of a unit end is decided by one question for each node. -/
theorem typesEnd_iff :
    u.TypesEnd ↔ ∀ n < u.tree.size, u.typeEndsWithin (u.tree.size + 1) n = true := by
  refine ⟨fun h n _ => typeEndsWithin_size_succ h n, fun h n => ⟨u.tree.size + 1, ?_⟩⟩
  rcases Nat.lt_or_ge n u.tree.size with hn | hn
  · exact h n hn
  · unfold typeEndsWithin
    split
    · rw [Java.expressionTypeWithin, Answer.within, (Java.finitary_expressionTypeBy u).outside _ hn]
      rfl
    · rw [Python.qualifiedCalleeWithin, Answer.within,
        (Python.finitary_qualifiedCalleeBy u).outside _ hn]
      rfl

instance : Decidable u.TypesEnd := decidable_of_iff _ typesEnd_iff.symm

/-- The loop in which `h` has the type that goes by the name of `h.digest`. -/
def digestLoop : CompilationUnit where
  language := .python
  filePath := "m.py"
  tree :=
    { nodes := #[
        ⟨none, "module", true, none, ⟨1, 1, 0, 32⟩, "for h in hs:\n    h = h.digest()\n"⟩,
        ⟨some 0, "for_statement", true, none, ⟨1, 1, 0, 31⟩, "for h in hs:\n    h = h.digest()"⟩,
        ⟨some 1, "for", false, none, ⟨1, 1, 0, 3⟩, "for"⟩,
        ⟨some 1, "identifier", true, some "left", ⟨1, 5, 4, 5⟩, "h"⟩,
        ⟨some 1, "in", false, none, ⟨1, 7, 6, 8⟩, "in"⟩,
        ⟨some 1, "identifier", true, some "right", ⟨1, 10, 9, 11⟩, "hs"⟩,
        ⟨some 1, ":", false, none, ⟨1, 12, 11, 12⟩, ":"⟩,
        ⟨some 1, "block", true, some "body", ⟨2, 5, 17, 31⟩, "h = h.digest()"⟩,
        ⟨some 7, "expression_statement", true, none, ⟨2, 5, 17, 31⟩, "h = h.digest()"⟩,
        ⟨some 8, "assignment", true, none, ⟨2, 5, 17, 31⟩, "h = h.digest()"⟩,
        ⟨some 9, "identifier", true, some "left", ⟨2, 5, 17, 18⟩, "h"⟩,
        ⟨some 9, "=", false, none, ⟨2, 7, 19, 20⟩, "="⟩,
        ⟨some 9, "call", true, some "right", ⟨2, 9, 21, 31⟩, "h.digest()"⟩,
        ⟨some 12, "attribute", true, some "function", ⟨2, 9, 21, 29⟩, "h.digest"⟩,
        ⟨some 13, "identifier", true, some "object", ⟨2, 9, 21, 22⟩, "h"⟩,
        ⟨some 13, ".", false, none, ⟨2, 10, 22, 23⟩, "."⟩,
        ⟨some 13, "identifier", true, some "attribute", ⟨2, 11, 23, 29⟩, "digest"⟩,
        ⟨some 12, "argument_list", true, some "arguments", ⟨2, 17, 29, 31⟩, "()"⟩,
        ⟨some 17, "(", false, none, ⟨2, 17, 29, 30⟩, "("⟩,
        ⟨some 17, ")", false, none, ⟨2, 18, 30, 31⟩, ")"⟩]
      parent_lt := by decide +kernel }

set_option maxRecDepth 100000 in
example : ¬ digestLoop.TypesEnd := by decide +kernel

namespace TypesEnd

variable (h : u.TypesEnd)
include h

theorem ends_java (hlanguage : u.language = .java) (n : NodeId) :
    (Java.expressionTypeOf u n).ends = true := by
  have hends := typeEndsWithin_size_succ h n
  rwa [typeEndsWithin, hlanguage] at hends

theorem ends_python (hlanguage : u.language = .python) (n : NodeId) :
    (Python.qualifiedCalleeOf u n).ends = true := by
  have hends := typeEndsWithin_size_succ h n
  rwa [typeEndsWithin, hlanguage] at hends

/-- The declared type of a variable has an answer, in either language. -/
theorem ends_declaredTypeOf (s : Symbol) :
    (u.language = .java → (Java.declaredTypeOf u s).ends = true) ∧
      (u.language = .python → (Python.declaredTypeOf u s).ends = true) :=
  ⟨fun hlanguage => Java.ends_declaredTypeBy (h.ends_java hlanguage) s,
    fun hlanguage => Python.ends_declaredTypeBy (h.ends_python hlanguage) s⟩

/-- Dispatch has an answer.  In Python it asks for no more than the type on which the call acts. -/
theorem ends_methodDefinitionOf (hlanguage : u.language = .java) (site : Site) :
    (Java.methodDefinitionOf u site).ends = true :=
  Java.ends_methodDefinitionBy (h.ends_java hlanguage) site

end TypesEnd

end CompilationUnit

/-! ## The question behind a match -/

namespace CompilationUnit

variable {u : CompilationUnit}

end CompilationUnit
end CryptoUsage
