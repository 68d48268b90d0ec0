/-!
# Answers to questions about types

A question about the type of an expression may lead on to the type of another one, and from there
back to itself.  Then it has no answer: whoever asks waits for ever.  That is not the same as an
answer that says nothing, which whoever asks can go on with.  So there are three outcomes, and
`Answer` has a constructor for each.

Questions that lead on to others are stated with a bound on how often they may do so, and `endless`
is what comes of running into the bound.  Which of these bounds are high enough, so that `endless`
means what it says, is for the theory to settle.
-/

set_option autoImplicit false

namespace CryptoUsage

/-- What comes of a question. -/
inductive Answer (α : Type) where
  /-- The question leads on to others without end, or at least for as long as was waited. -/
  | endless
  /-- Nothing is known. -/
  | unknown
  | known (value : α)
deriving DecidableEq, Repr

namespace Answer

variable {α β γ : Type}

/-- The answer at once, where it takes no further question. -/
def ofOption : Option α → Answer α
  | none => unknown
  | some value => known value

/-- What is known in the end.  Of an endless question that is nothing. -/
def toOption : Answer α → Option α
  | known value => some value
  | _ => none

/-- The answer to a question that is asked about the answer to another one. -/
def bind : Answer α → (α → Answer β) → Answer β
  | endless, _ => endless
  | unknown, _ => unknown
  | known value, next => next value

instance : Monad Answer where
  pure := known
  bind := bind

instance : MonadLift Option Answer := ⟨ofOption⟩

/-- The answers to questions that lead on to others at most `steps` times in a row.  What comes of a
question, given the answers to all others, is `next`. -/
def within {ι : Type} (next : (ι → Answer α) → ι → Answer α) : Nat → ι → Answer α
  | 0, _ => endless
  | steps + 1, question => next (within next steps) question

/-- Whether the question has an answer. -/
def ends : Answer α → Bool
  | endless => false
  | _ => true

@[simp] theorem bind_eq_bind (answer : Answer α) (next : α → Answer β) :
    (answer >>= next) = answer.bind next := rfl

@[simp] theorem pure_eq_known (value : α) : (pure value : Answer α) = known value := rfl

@[simp] theorem liftM_eq_ofOption (value : Option α) :
    (liftM value : Answer α) = ofOption value := rfl

@[simp] theorem ofOption_some (value : α) : ofOption (some value) = known value := rfl

@[simp] theorem ofOption_none : ofOption (none : Option α) = unknown := rfl

@[simp] theorem known_bind (value : α) (next : α → Answer β) :
    (known value).bind next = next value := rfl

@[simp] theorem unknown_bind (next : α → Answer β) : unknown.bind next = unknown := rfl

@[simp] theorem endless_bind (next : α → Answer β) : endless.bind next = endless := rfl

@[simp] theorem toOption_known (value : α) : (known value).toOption = some value := rfl

@[simp] theorem toOption_unknown : (unknown : Answer α).toOption = none := rfl

@[simp] theorem toOption_ofOption (value : Option α) : (ofOption value).toOption = value := by
  cases value <;> rfl

@[simp] theorem toOption_bind (answer : Answer α) (next : α → Answer β) :
    (answer.bind next).toOption = answer.toOption.bind fun value => (next value).toOption := by
  cases answer <;> rfl

@[simp] theorem ends_ofOption (value : Option α) : (ofOption value).ends = true := by
  cases value <;> rfl

@[simp] theorem ends_endless : (endless : Answer α).ends = false := rfl

@[simp] theorem ends_unknown : (unknown : Answer α).ends = true := rfl

@[simp] theorem ends_known (value : α) : (known value).ends = true := rfl

theorem ends_iff {answer : Answer α} : answer.ends = true ↔ answer ≠ endless := by
  cases answer <;> simp [ends]

end Answer

end CryptoUsage
