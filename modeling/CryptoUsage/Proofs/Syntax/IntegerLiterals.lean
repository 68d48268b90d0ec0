import CryptoUsage.Syntax.Literal
import Mathlib.Data.List.Forall2
import Mathlib.Data.Nat.Digits.Defs
import Mathlib.Tactic.Ring

/-!
# Integer literals

How an integer literal is written (`Literal.IsToken`) is said here apart from how it is read: a
radix, the digits, and a list of characters that spells them.  Underscores may stand anywhere
among the digits, which is more than the grammars allow.  Both languages are covered: in Java a
zero in front makes an octal literal and an `L` may follow, in Python neither is so.

Reading a literal gives the positional value of its digits, or nothing if that does not fit a word
(`Literal.int?_of_isToken`).  So no literal denotes a negative number, and a sign in front of one
never leaves the words.

## What is here

* Digits.  `IsDigit` relates a character of either case to its value.  There are few digits, so
  what holds of all of them is checked on the list (`IsDigit.of_forall_lt`): that they are read as
  their values, and that none is a sign, a suffix, a blank or the mark of a radix.
  `digitsAfter?_eq` is the induction that adds them up.
* Tokens.  `IsNumeral` has one case for each way of writing, and `Spells` takes the underscores
  out.
* Reading.  The suffix is taken off (`withoutSuffix_append`), then the underscores, and what is
  left starts with a mark, with a zero or with another digit; `IsNumeral.radixAndDigits_eq` goes
  through these and finds the radix and the digits that the literal was written with.
-/

set_option autoImplicit false

namespace CryptoUsage

/-! ## Digits -/

/-- A character is the digit of a radix with a value, in either case. -/
structure IsDigit (radix : Nat) (c : Char) (value : Nat) : Prop where
  lt : value < radix
  eq : c = Nat.digitChar value ∨ c = (Nat.digitChar value).toUpper

instance (radix : Nat) (c : Char) (value : Nat) : Decidable (IsDigit radix c value) :=
  decidable_of_iff
    (value < radix ∧ (c = Nat.digitChar value ∨ c = (Nat.digitChar value).toUpper))
    ⟨fun ⟨hlt, heq⟩ => ⟨hlt, heq⟩, fun h => ⟨h.lt, h.eq⟩⟩

/-- The value of digits in a radix, of which the first counts most. -/
def positionalValue (radix : Nat) (digits : List Nat) : Nat := Nat.ofDigits radix digits.reverse

section Digits

variable {radix value : Nat} {c : Char}

/-- What holds of the digits below a bound in either case holds of every digit. -/
theorem IsDigit.of_forall_lt {P : Char → Nat → Prop} {bound : Nat}
    (hall : ∀ value < bound, P (Nat.digitChar value) value ∧ P (Nat.digitChar value).toUpper value)
    (hradix : radix ≤ bound) (h : IsDigit radix c value) : P c value := by
  obtain ⟨hlower, hupper⟩ := hall value (Nat.lt_of_lt_of_le h.lt hradix)
  rcases h.eq with rfl | rfl
  · exact hlower
  · exact hupper

/-- A digit is read as its value. -/
theorem IsDigit.digitValue?_eq (hradix : radix ≤ 16) (h : IsDigit radix c value) :
    Numeral.digitValue? radix c = some value := by
  have hread : Numeral.digitValue? 16 c = some value :=
    of_forall_lt (P := fun c value => Numeral.digitValue? 16 c = some value) (by decide) hradix h
  rw [Numeral.digitValue?] at hread ⊢
  exact Option.filter_eq_some_iff.mpr
    ⟨(Option.filter_eq_some_iff.mp hread).1, decide_eq_true h.lt⟩

/-- No digit is a sign or a suffix, or blank. -/
theorem IsDigit.isPlain (hradix : radix ≤ 16) (h : IsDigit radix c value) :
    c ∉ ['-', '+', 'L', 'l'] ∧ Text.isBlank c = false :=
  of_forall_lt (P := fun c _ => c ∉ ['-', '+', 'L', 'l'] ∧ Text.isBlank c = false) (by decide)
    hradix h

/-- No decimal digit marks a radix. -/
theorem IsDigit.not_mem_marks (hradix : radix ≤ 10) (h : IsDigit radix c value) :
    c ∉ ['x', 'X', 'o', 'O', 'b', 'B'] :=
  of_forall_lt (P := fun c _ => c ∉ ['x', 'X', 'o', 'O', 'b', 'B']) (by decide) hradix h

/-- The digit for zero is `0` only. -/
theorem IsDigit.eq_zero_iff (hradix : radix ≤ 16) (h : IsDigit radix c value) :
    c = '0' ↔ value = 0 :=
  of_forall_lt (P := fun c value => c = '0' ↔ value = 0) (by decide) hradix h

/-- What spells digits has nothing but digits in it. -/
theorem exists_isDigit_of_mem {cs : List Char} {digits : List Nat}
    (h : List.Forall₂ (IsDigit radix) cs digits) (hc : c ∈ cs) :
    ∃ value, IsDigit radix c value := by
  induction h with
  | nil => cases hc
  | cons hdigit _ ih =>
    rcases List.mem_cons.mp hc with rfl | hc
    · exact ⟨_, hdigit⟩
    · exact ih hc

theorem positionalValue_cons (digit : Nat) (digits : List Nat) :
    positionalValue radix (digit :: digits) =
      digit * radix ^ digits.length + positionalValue radix digits := by
  rw [positionalValue, positionalValue, List.reverse_cons, Nat.ofDigits_append,
    Nat.ofDigits_singleton, List.length_reverse, Nat.add_comm, Nat.mul_comm digit]

/-- **A list of digits is read as its positional value.** -/
theorem digitsAfter?_eq {cs : List Char} {digits : List Nat} (hradix : radix ≤ 16)
    (h : List.Forall₂ (IsDigit radix) cs digits) (acc : Nat) :
    Numeral.digitsAfter? radix acc cs =
      some (acc * radix ^ digits.length + positionalValue radix digits) := by
  induction h generalizing acc with
  | nil => simp [Numeral.digitsAfter?, positionalValue]
  | @cons c digit cs digits hdigit _ ih =>
    rw [Numeral.digitsAfter?, hdigit.digitValue?_eq hradix, Option.bind_some, ih,
      positionalValue_cons, List.length_cons]
    congr 1
    ring

/-- Digits without a sign denote their value if it fits. -/
theorem wordOfChars?_eq {cs : List Char} {digits : List Nat} (hradix : radix ≤ 16)
    (h : List.Forall₂ (IsDigit radix) cs digits) (hne : digits ≠ []) :
    Numeral.wordOfChars? radix cs = Numeral.wordOfInt? (positionalValue radix digits) := by
  cases h with
  | nil => exact absurd rfl hne
  | @cons c digit cs digits hdigit hrest =>
    have hhead {sign : Char} (hsign : sign ∈ ['-', '+', 'L', 'l']) :
        (c :: cs).head? ≠ some sign := by
      rintro ⟨⟩
      exact (hdigit.isPlain hradix).1 hsign
    have hnat : Numeral.natOfDigits? radix (c :: cs) =
        some (positionalValue radix (digit :: digits)) := by
      rw [Numeral.natOfDigits?, digitsAfter?_eq hradix (.cons hdigit hrest), Nat.zero_mul,
        Nat.zero_add]
    have hint : Numeral.intOfChars? radix (c :: cs) =
        some (positionalValue radix (digit :: digits) : Int) := by
      rw [Numeral.intOfChars?_of_unsigned (hhead (by decide)) (hhead (by decide)), hnat]
      rfl
    rw [Numeral.wordOfChars?, hint, Option.bind_some]

end Digits

/-! ## Tokens -/

namespace Literal

/-- Characters spell digits when nothing but underscores stands between these. -/
def Spells (radix : Nat) (cs : List Char) (digits : List Nat) : Prop :=
  List.Forall₂ (IsDigit radix) (cs.filter (· != '_')) digits

instance (radix : Nat) (cs : List Char) (digits : List Nat) : Decidable (Spells radix cs digits) :=
  inferInstanceAs (Decidable (List.Forall₂ (IsDigit radix) (cs.filter (· != '_')) digits))

/-- The letters that stand after a zero for a radix.  The grammar of Java takes an `o` there too,
which the language does not. -/
def radixMarks : List (Char × Nat) :=
  [('x', 16), ('X', 16), ('o', 8), ('O', 8), ('b', 2), ('B', 2)]

/-- An integer literal but for its suffix: with a marked radix, in Java octal after a zero, or
decimal.  A Java literal that is decimal does not start with a zero unless it is one. -/
inductive IsNumeral (language : Language) : Nat → List Nat → List Char → Prop
  | marked {mark : Char} {radix : Nat} {digits : List Nat} {cs : List Char}
    (mark_mem : (mark, radix) ∈ radixMarks) (ne_nil : digits ≠ [])
    (spells : Spells radix cs digits) : IsNumeral language radix digits ('0' :: mark :: cs)
  | octal {digits : List Nat} {cs : List Char} (java : language = .java) (ne_nil : digits ≠ [])
    (spells : Spells 8 cs digits) : IsNumeral language 8 digits ('0' :: cs)
  | decimal {digits : List Nat} {cs : List Char} (ne_nil : digits ≠ [])
    (leading : language = .java → digits.head? = some 0 → digits = [0])
    (spells : Spells 10 cs digits) : IsNumeral language 10 digits cs

/-- What may end an integer literal. -/
def suffixes : Language → List (List Char)
  | .java => [[], ['L'], ['l']]
  | .python => [[]]

/-- A text is an integer literal with the given radix and digits. -/
def IsToken (language : Language) (radix : Nat) (digits : List Nat) (text : String) : Prop :=
  ∃ cs, ∃ suffix ∈ suffixes language, text.toList = cs ++ suffix ∧
    IsNumeral language radix digits cs

variable {language : Language} {radix : Nat} {digits : List Nat} {cs : List Char} {text : String}

theorem IsNumeral.radix_le (h : IsNumeral language radix digits cs) : radix ≤ 16 := by
  cases h with
  | marked hmark =>
    have hle : ∀ mark ∈ radixMarks, mark.2 ≤ 16 := by decide
    exact hle _ hmark
  | octal | decimal => decide

theorem IsNumeral.ne_nil (h : IsNumeral language radix digits cs) : digits ≠ [] := by
  cases h with
  | marked _ h | octal _ h | decimal h => exact h

/-- No character of a literal is a suffix, or blank. -/
theorem IsNumeral.isPlain (h : IsNumeral language radix digits cs) :
    ∀ c ∈ cs, c ≠ 'L' ∧ c ≠ 'l' ∧ Text.isBlank c = false := by
  have hspells {radix : Nat} {cs : List Char} (hradix : radix ≤ 16) (h : Spells radix cs digits) :
      ∀ c ∈ cs, c ≠ 'L' ∧ c ≠ 'l' ∧ Text.isBlank c = false := by
    intro c hc
    by_cases hgap : c = '_'
    · subst hgap
      decide
    · have hmem : c ∈ cs.filter (· != '_') := List.mem_filter.mpr ⟨hc, by simpa using hgap⟩
      obtain ⟨_, hdigit⟩ := exists_isDigit_of_mem h hmem
      have hplain := hdigit.isPlain hradix
      simp only [List.mem_cons, not_or] at hplain
      exact ⟨hplain.1.2.2.1, hplain.1.2.2.2.1, hplain.2⟩
  have hradix := h.radix_le
  have hzero : '0' ≠ 'L' ∧ '0' ≠ 'l' ∧ Text.isBlank '0' = false := by decide
  cases h with
  | @marked mark _ _ cs hmark _ h =>
    have hmarks : ∀ mark ∈ radixMarks,
        mark.1 ≠ 'L' ∧ mark.1 ≠ 'l' ∧ Text.isBlank mark.1 = false := by decide
    exact List.forall_mem_cons.mpr
      ⟨hzero, List.forall_mem_cons.mpr ⟨hmarks _ hmark, hspells hradix h⟩⟩
  | octal _ _ h => exact List.forall_mem_cons.mpr ⟨hzero, hspells hradix h⟩
  | decimal _ _ h => exact hspells hradix h

/-! ## Reading -/

/-- Without blanks there is nothing to trim. -/
theorem trimChars_of_not_isBlank (h : ∀ c ∈ cs, Text.isBlank c = false) :
    Text.trimChars cs = cs := by
  simpa using @Text.trimChars_append [] cs [] nofun h nofun

/-- The suffix of a literal is taken off. -/
theorem withoutSuffix_append {suffix : List Char} (hsuffix : suffix ∈ suffixes language)
    (h : ∀ c ∈ cs, c ≠ 'L' ∧ c ≠ 'l') : withoutSuffix language (cs ++ suffix) = cs := by
  have hlast {c : Char} (hc : c ∉ cs) : dropLast? c cs = none := by
    rw [dropLast?, if_neg fun hlast => hc (List.mem_of_getLast? hlast)]
  cases language with
  | python =>
    rw [List.mem_singleton.mp hsuffix, List.append_nil]
    rfl
  | java =>
    have hupper : dropLast? 'L' cs = none := hlast fun hc => (h _ hc).1 rfl
    have hlower : dropLast? 'l' cs = none := hlast fun hc => (h _ hc).2 rfl
    simp only [suffixes, List.mem_cons, List.not_mem_nil, or_false] at hsuffix
    rcases hsuffix with rfl | rfl | rfl
    · simp [withoutSuffix, hupper, hlower]
    · simp [withoutSuffix, dropLast?]
    · simp [withoutSuffix, dropLast?]

/-- After a zero, what is no mark is a digit. -/
theorem radixAndDigits_zero {c : Char} (hmark : c ∉ ['x', 'X', 'o', 'O', 'b', 'B']) :
    radixAndDigits language ('0' :: c :: cs) =
      if language = .java then (8, c :: cs) else (10, '0' :: c :: cs) := by
  simp only [List.mem_cons, List.not_mem_nil, or_false, not_or] at hmark
  unfold radixAndDigits
  split <;> simp_all

/-- What starts with no zero is decimal. -/
theorem radixAndDigits_of_ne_zero {c : Char} (hzero : c ≠ '0') :
    radixAndDigits language (c :: cs) = (10, c :: cs) := by
  unfold radixAndDigits
  split <;> simp_all

/-- What is left without suffix and underscores has the radix and the digits of the literal. -/
theorem IsNumeral.radixAndDigits_eq (h : IsNumeral language radix digits cs) :
    ∃ spelled, radixAndDigits language (cs.filter (· != '_')) = (radix, spelled) ∧
      List.Forall₂ (IsDigit radix) spelled digits := by
  cases h with
  | @marked mark _ _ cs hmark _ hspells =>
    refine ⟨cs.filter (· != '_'), ?_, hspells⟩
    simp only [radixMarks, List.mem_cons, Prod.mk.injEq, List.not_mem_nil, or_false] at hmark
    rcases hmark with ⟨rfl, rfl⟩ | ⟨rfl, rfl⟩ | ⟨rfl, rfl⟩ | ⟨rfl, rfl⟩ | ⟨rfl, rfl⟩ | ⟨rfl, rfl⟩
    all_goals rfl
  | @octal _ cs hjava hne hspells =>
    refine ⟨cs.filter (· != '_'), ?_, hspells⟩
    change radixAndDigits language ('0' :: cs.filter (· != '_')) = _
    rw [Spells] at hspells
    cases hspelled : cs.filter (· != '_') with
    | nil =>
      rw [hspelled] at hspells
      cases hspells
      exact absurd rfl hne
    | cons c spelled =>
      obtain ⟨_, hdigit⟩ := exists_isDigit_of_mem hspells (c := c) (by simp [hspelled])
      rw [radixAndDigits_zero (hdigit.not_mem_marks (by decide)), if_pos hjava]
  | decimal hne hleading hspells =>
    refine ⟨cs.filter (· != '_'), ?_, hspells⟩
    rw [Spells] at hspells
    generalize cs.filter (· != '_') = spelled at hspells
    cases hspells with
    | nil => exact absurd rfl hne
    | @cons c digit spelled digits hdigit hrest =>
      by_cases hzero : c = '0'
      case neg => exact radixAndDigits_of_ne_zero hzero
      subst hzero
      cases hrest with
      | nil => rfl
      | cons hnext _ =>
        have hpython : language ≠ .java := fun hjava => by
          have hone := hleading hjava (by rw [(hdigit.eq_zero_iff (by decide)).mp rfl]; rfl)
          cases hone
        rw [radixAndDigits_zero (hnext.not_mem_marks (by decide)), if_neg hpython]

/-- **An integer literal denotes its positional value**, if that fits. -/
theorem int?_of_isToken (h : IsToken language radix digits text) :
    int? language text = Numeral.wordOfInt? (positionalValue radix digits) := by
  obtain ⟨cs, suffix, hsuffix, htext, hnumeral⟩ := h
  have hplain := hnumeral.isPlain
  have hend : ∀ c ∈ suffix, c ≠ '_' ∧ Text.isBlank c = false := by
    have hends : ∀ language, ∀ suffix ∈ suffixes language,
        suffix.all (fun c => c != '_' && !Text.isBlank c) = true := by
      rintro (_ | _) <;> decide
    simpa using hends language suffix hsuffix
  have htrim : Text.trimChars text.toList = cs ++ suffix := by
    rw [htext]
    refine trimChars_of_not_isBlank fun c hc => ?_
    exact (List.mem_append.mp hc).elim (fun hc => (hplain c hc).2.2) fun hc => (hend c hc).2
  have hbare : withoutSuffix language ((Text.trimChars text.toList).filter (· != '_')) =
      cs.filter (· != '_') := by
    have hkept : suffix.filter (· != '_') = suffix :=
      List.filter_eq_self.mpr fun c hc => by simpa using (hend c hc).1
    rw [htrim, List.filter_append, hkept]
    refine withoutSuffix_append hsuffix fun c hc => ?_
    have := hplain c (List.mem_of_mem_filter hc)
    exact ⟨this.1, this.2.1⟩
  obtain ⟨spelled, hradix, hspelled⟩ := hnumeral.radixAndDigits_eq
  rw [int?, hbare, hradix]
  exact wordOfChars?_eq hnumeral.radix_le hspelled hnumeral.ne_nil

/-- What an integer literal denotes, in numbers. -/
theorem map_toInt_int? (h : IsToken language radix digits text) :
    (int? language text).map Int64.toInt =
      if (positionalValue radix digits : Int) ≤ Int64.maxValue.toInt then
        some (positionalValue radix digits : Int)
      else none := by
  rw [int?_of_isToken h]
  cases hword : Numeral.wordOfInt? (positionalValue radix digits) with
  | some word =>
    have hvalue := Numeral.toInt_of_wordOfInt? hword
    rw [if_pos (hvalue ▸ Int64.toInt_le word), Option.map_some, hvalue]
  | none =>
    have hlow : Int64.minValue.toInt ≤ (positionalValue radix digits : Int) := by
      have hmin : Int64.minValue.toInt ≤ 0 := by decide
      omega
    have hhigh : ¬ (positionalValue radix digits : Int) ≤ Int64.maxValue.toInt := fun hle => by
      rw [Numeral.wordOfInt?, if_pos ⟨hlow, hle⟩] at hword
      cases hword
    rw [if_neg hhigh, Option.map_none]

/-- No integer literal denotes a negative number. -/
theorem toInt_nonneg_of_isToken {word : Int64} (h : IsToken language radix digits text)
    (hword : int? language text = some word) : 0 ≤ word.toInt := by
  have hvalue : word.toInt = (positionalValue radix digits : Int) :=
    Numeral.toInt_of_wordOfInt? ((int?_of_isToken h).symm.trans hword)
  omega

end Literal

end CryptoUsage
