/-!
# Dotted names

Types and modules are written as names whose parts are joined by dots.  A name is *qualified* when
it has a dot, and its *simple name* is what follows the last one.

All functions are on lists of characters first, where `splitLast?` is characterised by
`splitLast?_eq_some_iff` and `splitLast?_eq_none_iff`; the `String` forms convert at the edges.

## What is here

* Cutting names: at the last dot (`splitQualified?`, `simpleName`), before the first one
  (`firstSegment`), and behind a given text (`dropPrefix?`).
* `namesAgree` compares a name that is known with a candidate.  Names that are both qualified, or
  both not, have to be equal; if only one of them is, their simple names have to be.  So a rule
  may name a type by its full name or by its simple one, and a type whose package is unknown can
  still be matched.
-/

set_option autoImplicit false

namespace CryptoUsage
namespace Text

/-- The parts before and after the last occurrence of `sep`, if there is one. -/
def splitLast? (sep : Char) : List Char → Option (List Char × List Char)
  | [] => none
  | c :: cs =>
    match splitLast? sep cs with
    | some (front, back) => some (c :: front, back)
    | none => if c = sep then some ([], cs) else none

theorem splitLast?_eq_none_iff {sep : Char} {cs : List Char} :
    splitLast? sep cs = none ↔ sep ∉ cs := by
  induction cs with
  | nil => simp [splitLast?]
  | cons c cs ih =>
    rw [splitLast?]
    cases h : splitLast? sep cs with
    | some p =>
      have hmem : sep ∈ cs := Decidable.of_not_not fun hn => by simp [ih.mpr hn] at h
      simp [hmem]
    | none =>
      have hcs := ih.mp h
      by_cases hc : c = sep
      · simp [hc]
      · simp [hc, hcs, Ne.symm hc]

/-- The split is at a separator that none follows. -/
theorem splitLast?_eq_some_iff {sep : Char} {cs front back : List Char} :
    splitLast? sep cs = some (front, back) ↔ cs = front ++ sep :: back ∧ sep ∉ back := by
  induction cs generalizing front back with
  | nil => simp [splitLast?]
  | cons c cs ih =>
    rw [splitLast?]
    cases h : splitLast? sep cs with
    | some p =>
      obtain ⟨f, b⟩ := p
      obtain ⟨rfl, hb⟩ := ih.mp h
      constructor
      · rintro ⟨⟩
        exact ⟨rfl, hb⟩
      · rintro ⟨heq, hback⟩
        cases front with
        | nil =>
          simp only [List.nil_append, List.cons.injEq] at heq
          rw [← heq.2] at hback
          simp at hback
        | cons d front =>
          simp only [List.cons_append, List.cons.injEq] at heq
          have := ih.mpr ⟨heq.2, hback⟩
          rw [h] at this
          cases this
          rw [heq.1]
    | none =>
      have hcs := splitLast?_eq_none_iff.mp h
      by_cases hc : c = sep
      · subst hc
        simp only [if_true, Option.some.injEq, Prod.mk.injEq]
        constructor
        · rintro ⟨rfl, rfl⟩
          exact ⟨rfl, hcs⟩
        · rintro ⟨heq, -⟩
          cases front with
          | nil => simpa using heq
          | cons d front =>
            simp only [List.cons_append, List.cons.injEq] at heq
            exact absurd (heq.2 ▸ by simp) hcs
      · simp only [if_neg hc, reduceCtorEq, false_iff]
        rintro ⟨heq, -⟩
        cases front with
        | nil => simp_all
        | cons d front =>
          simp only [List.cons_append, List.cons.injEq] at heq
          exact absurd (heq.2 ▸ by simp) hcs

/-- Whether a name has a dot. -/
def isQualified (name : String) : Bool := name.toList.contains '.'

/-- The qualifier and the simple name of a qualified name. -/
def splitQualified? (name : String) : Option (String × String) :=
  (splitLast? '.' name.toList).map fun (front, back) => (String.ofList front, String.ofList back)

/-- What follows the last dot of a name; the whole name if it has none. -/
def simpleName (name : String) : String :=
  match splitQualified? name with
  | some (_, simple) => simple
  | none => name

/-- What precedes the first dot of a name; the whole name if it has none. -/
def firstSegment (name : String) : String :=
  String.ofList (name.toList.takeWhile (· != '.'))

/-- The text after `front`, if the text starts with it. -/
def dropPrefix? : List Char → List Char → Option (List Char)
  | [], cs => some cs
  | _ :: _, [] => none
  | p :: ps, c :: cs => if p = c then dropPrefix? ps cs else none

theorem dropPrefix?_eq_some_iff {ps cs rest : List Char} :
    dropPrefix? ps cs = some rest ↔ cs = ps ++ rest := by
  induction ps generalizing cs with
  | nil => simp [dropPrefix?]
  | cons p ps ih =>
    cases cs with
    | nil => simp [dropPrefix?]
    | cons c cs =>
      rw [dropPrefix?]
      by_cases h : p = c
      · subst h
        rw [if_pos rfl, ih]
        simp
      · simp [h, Ne.symm h]

/-- Two names agree when they are equal, or when exactly one of them is qualified and their simple
names are equal.  A name that no import qualifies is thus compared by its simple name alone. -/
def namesAgree (name candidate : String) : Bool :=
  name == candidate ||
    (isQualified name != isQualified candidate && simpleName name == simpleName candidate)

end Text
end CryptoUsage
