import CryptoUsage.Numeral
import CryptoUsage.Text.Blank

/-!
# Decimal numerals

A decimal numeral is said here apart from how it is read and how it is written.  It has digits
(`IsNatural`), perhaps with zeros in front that do not count, and perhaps a sign (`IsDecimal`).  A
numeral with nothing that it could do without is canonical (`IsCanonical`).

A text is read as a word exactly if it is a decimal numeral of the word (`word?_eq_some_iff`),
where blank margins may be trimmed before (`word?_trim_eq_some_iff`).  A word is written as its
canonical numeral, and a number has no other one (`isCanonical_iff`).  So reading undoes writing,
over all words (`word?_decimal`).  It is used where constants are cast from texts to numbers and
back.

## What is here

* Reading digits.  The digit values in radix ten are those of core (`digitValue?_ten`), so that a
  list of digits is read as `Nat.ofDigitChars` of it (`digitsAfter?_ten`), and lemmas about that
  apply.
* Reading numerals.  A sign is no digit and no digit a sign, so of the three ways to read a text
  at most one applies (`intOfChars?_eq_some_iff`).  Nothing in a numeral is blank, so only margins
  are trimmed (`IsDecimal.not_isBlank`).
* Writing.  Digits that are read after others are written after them (`toDigits_ofDigitChars`);
  from this it follows that digits without a zero in front are those that are written
  (`IsNatural.eq_toDigits`), and that a positive number is written without one (`head?_toDigits`).
-/

set_option autoImplicit false

namespace CryptoUsage
namespace Numeral

/-- Decimal digits of a number, perhaps with zeros in front. -/
structure IsNatural (cs : List Char) (m : Nat) : Prop where
  ne_nil : cs ≠ []
  isDigit : ∀ c ∈ cs, c.isDigit = true
  value : Nat.ofDigitChars 10 cs 0 = m

/-- A decimal numeral of a number: digits, perhaps with a sign.  Zero may have either. -/
inductive IsDecimal : List Char → Int → Prop
  | unsigned {cs : List Char} {m : Nat} (digits : IsNatural cs m) : IsDecimal cs m
  | plus {cs : List Char} {m : Nat} (digits : IsNatural cs m) : IsDecimal ('+' :: cs) m
  | minus {cs : List Char} {m : Nat} (digits : IsNatural cs m) : IsDecimal ('-' :: cs) (-m)

/-- A decimal numeral without a plus sign and without zeros in front, where zero has no sign. -/
inductive IsCanonical : List Char → Int → Prop
  | zero : IsCanonical ['0'] 0
  | positive {cs : List Char} {m : Nat} (digits : IsNatural cs m) (leading : cs.head? ≠ some '0') :
    IsCanonical cs m
  | negative {cs : List Char} {m : Nat} (digits : IsNatural cs m) (leading : cs.head? ≠ some '0') :
    IsCanonical ('-' :: cs) (-m)

/-- A text stands for a word if it is a decimal numeral of it between blank margins. -/
def StandsFor (text : String) (n : Int64) : Prop :=
  ∃ front cs tail, text.toList = front ++ cs ++ tail ∧ (∀ c ∈ front, Text.isBlank c = true) ∧
    (∀ c ∈ tail, Text.isBlank c = true) ∧ IsDecimal cs n.toInt

variable {c : Char} {cs : List Char} {m acc : Nat} {n : Int} {w : Int64} {text : String}

/-! ## Reading digits -/

theorem toNat_of_isDigit (h : c.isDigit = true) : 48 ≤ c.toNat ∧ c.toNat ≤ 57 :=
  Char.isDigit_iff_toNat.mp h

theorem sub_lt_ten_of_isDigit (h : c.isDigit = true) : c.toNat - '0'.toNat < 10 := by
  have hrange := toNat_of_isDigit h
  change c.toNat - 48 < 10
  omega

/-- The decimal digits are what core counts as digits, and no letter is one. -/
theorem digitValue?_ten (c : Char) :
    digitValue? 10 c = if c.isDigit then some (c.toNat - '0'.toNat) else none := by
  have hle (a b : Char) : a ≤ b ↔ a.toNat ≤ b.toNat := UInt32.le_iff_toNat_le
  have hdigit := Char.isDigit_iff_toNat (c := c)
  by_cases hc : c.isDigit = true
  · have hrange := hdigit.mp hc
    rw [digitValue?, if_pos hc, if_pos ⟨(hle _ _).mpr hrange.1, (hle _ _).mpr hrange.2⟩]
    exact Option.filter_eq_some_iff.mpr ⟨rfl, decide_eq_true (sub_lt_ten_of_isDigit hc)⟩
  · have hrange : ¬('0' ≤ c ∧ c ≤ '9') := by
      rw [hle, hle]
      exact fun h => hc (hdigit.mpr h)
    rw [digitValue?, if_neg hc, if_neg hrange]
    split <;> simp

/-- Digits are read from the left, and anything else is refused. -/
theorem digitsAfter?_ten (acc : Nat) (cs : List Char) :
    digitsAfter? 10 acc cs =
      if cs.all Char.isDigit then some (Nat.ofDigitChars 10 cs acc) else none := by
  induction cs generalizing acc with
  | nil => simp [digitsAfter?]
  | cons c cs ih =>
    rw [digitsAfter?, digitValue?_ten]
    by_cases hc : c.isDigit = true
    · rw [if_pos hc, Option.bind_some, ih, List.all_cons, hc, Bool.true_and,
        Nat.ofDigitChars_cons, Nat.mul_comm]
    · rw [if_neg hc, Option.bind_none, List.all_cons, if_neg (by simp [hc])]

theorem natOfDigits?_eq_some_iff : natOfDigits? 10 cs = some m ↔ IsNatural cs m := by
  cases cs with
  | nil => exact ⟨nofun, fun h => absurd rfl h.ne_nil⟩
  | cons c cs =>
    rw [natOfDigits?, digitsAfter?_ten]
    constructor
    · intro h
      obtain ⟨hall, hvalue⟩ := Option.ite_none_right_eq_some.mp h
      exact ⟨List.cons_ne_nil c cs, List.all_eq_true.mp hall, Option.some.inj hvalue⟩
    · intro h
      rw [if_pos (List.all_eq_true.mpr h.isDigit), h.value]

/-! ## Reading numerals -/

/-- A sign is no digit, so a numeral is read in one way only. -/
theorem intOfChars?_eq_some_iff : intOfChars? 10 cs = some n ↔ IsDecimal cs n := by
  constructor
  · intro h
    rw [intOfChars?.eq_def] at h
    -- A sign changes how the digits count, never which they are.
    have hlift {m? : Option Nat} {f : Int → Int} (h : (m? : Option Int).map f = some n) :
        ∃ m, m? = some m ∧ f m = n := by
      cases m? <;> simp_all
    split at h
    · obtain ⟨m, hm, rfl⟩ := hlift h
      exact .minus (natOfDigits?_eq_some_iff.mp hm)
    · obtain ⟨m, hm, rfl⟩ := hlift h
      exact .plus (natOfDigits?_eq_some_iff.mp hm)
    · obtain ⟨m, hm, rfl⟩ := hlift h
      exact .unsigned (natOfDigits?_eq_some_iff.mp hm)
  · intro h
    cases h with
    | minus digits =>
      rw [intOfChars?, natOfDigits?_eq_some_iff.mpr digits]
      rfl
    | plus digits =>
      rw [intOfChars?, natOfDigits?_eq_some_iff.mpr digits]
      rfl
    | unsigned digits =>
      have hhead {sign : Char} (hsign : sign.isDigit = false) : cs.head? ≠ some sign := fun h =>
        absurd (digits.isDigit sign (List.mem_of_head? h)) (by simp [hsign])
      rw [intOfChars?_of_unsigned (hhead rfl) (hhead rfl), natOfDigits?_eq_some_iff.mpr digits]
      rfl

/-- **A text is read as a word exactly if it is a decimal numeral of the word.** -/
theorem word?_eq_some_iff : word? text = some w ↔ IsDecimal text.toList w.toInt := by
  rw [word?, wordOfChars?, Option.bind_eq_some_iff]
  constructor
  · rintro ⟨n, hn, hw⟩
    rw [toInt_of_wordOfInt? hw]
    exact intOfChars?_eq_some_iff.mp hn
  · intro h
    exact ⟨w.toInt, intOfChars?_eq_some_iff.mpr h, wordOfInt?_toInt w⟩

example : word? "-009223372036854775808" = some Int64.minValue := by decide

example : word? "+9223372036854775808" = none := by decide

theorem not_isBlank_of_isDigit (h : c.isDigit = true) : Text.isBlank c = false := by
  have hrange := toNat_of_isDigit h
  simp only [Text.isBlank, Bool.or_eq_false_iff, Bool.and_eq_false_iff, decide_eq_false_iff_not,
    beq_eq_false_iff_ne]
  omega

/-- Neither digits nor signs are blank. -/
theorem IsDecimal.not_isBlank (h : IsDecimal cs n) : ∀ c ∈ cs, Text.isBlank c = false := by
  cases h with
  | unsigned digits => exact fun c hc => not_isBlank_of_isDigit (digits.isDigit c hc)
  | plus digits | minus digits =>
    exact List.forall_mem_cons.mpr
      ⟨by decide, fun c hc => not_isBlank_of_isDigit (digits.isDigit c hc)⟩

/-- Without its margins, a text is read as the word that it stands for. -/
theorem word?_trim_eq_some_iff : word? (Text.trim text) = some w ↔ StandsFor text w := by
  rw [word?_eq_some_iff, Text.toList_trim]
  constructor
  · intro h
    obtain ⟨front, tail, htext, hfront, htail⟩ := Text.exists_append_trim text.toList
    exact ⟨front, Text.trimChars text.toList, tail, htext, hfront, htail, h⟩
  · rintro ⟨front, cs, tail, htext, hfront, htail, h⟩
    rw [htext, Text.trimChars_append hfront h.not_isBlank htail]
    exact h

/-! ## Writing -/

/-- A digit is written as itself. -/
theorem toDigits_of_isDigit (h : c.isDigit = true) :
    Nat.toDigits 10 (c.toNat - '0'.toNat) = [c] := by
  have hlt := sub_lt_ten_of_isDigit h
  have hchar : Nat.digitChar (c.toNat - '0'.toNat) = c := by
    rw [← Char.toNat_inj, Nat.toNat_digitChar_of_lt_ten hlt]
    exact Nat.add_sub_cancel' (toNat_of_isDigit h).1
  rw [Nat.toDigits_of_lt_base hlt, hchar]

/-- Digits that are read after others are written after them. -/
theorem toDigits_ofDigitChars (hcs : ∀ c ∈ cs, c.isDigit = true) (hacc : 0 < acc) :
    Nat.toDigits 10 (Nat.ofDigitChars 10 cs acc) = Nat.toDigits 10 acc ++ cs := by
  induction cs generalizing acc with
  | nil => rw [Nat.ofDigitChars_nil, List.append_nil]
  | cons c cs ih =>
    obtain ⟨hc, hcs⟩ := List.forall_mem_cons.mp hcs
    calc Nat.toDigits 10 (Nat.ofDigitChars 10 (c :: cs) acc)
        = Nat.toDigits 10 (10 * acc + (c.toNat - '0'.toNat)) ++ cs := by
          rw [Nat.ofDigitChars_cons, ih hcs (by omega)]
      _ = Nat.toDigits 10 acc ++ Nat.toDigits 10 (c.toNat - '0'.toNat) ++ cs := by
          rw [Nat.toDigits_append_toDigits (by decide) hacc (sub_lt_ten_of_isDigit hc)]
      _ = Nat.toDigits 10 acc ++ c :: cs := by
          rw [toDigits_of_isDigit hc, List.append_assoc, List.singleton_append]

/-- Without zeros in front, a number has one list of digits only. -/
theorem IsNatural.eq_toDigits (h : IsNatural cs m) (hleading : cs.head? ≠ some '0') :
    cs = Nat.toDigits 10 m := by
  cases cs with
  | nil => exact absurd rfl h.ne_nil
  | cons c cs =>
    obtain ⟨hc, hcs⟩ := List.forall_mem_cons.mp h.isDigit
    have hpos : 0 < c.toNat - '0'.toNat := by
      have hne : '0'.toNat ≠ c.toNat := fun heq =>
        hleading (congrArg some (Char.toNat_inj.mp heq.symm))
      exact Nat.sub_pos_of_lt (Nat.lt_of_le_of_ne (toNat_of_isDigit hc).1 hne)
    rw [← h.value, Nat.ofDigitChars_cons, Nat.mul_zero, Nat.zero_add,
      toDigits_ofDigitChars hcs hpos, toDigits_of_isDigit hc, List.singleton_append]

theorem isNatural_toDigits (m : Nat) : IsNatural (Nat.toDigits 10 m) m :=
  ⟨Nat.toDigits_ne_nil, fun _ hc => Nat.isDigit_of_mem_toDigits (by decide) (by decide) hc,
    Nat.ofDigitChars_ten_toDigits⟩

/-- A positive number is written without zeros in front. -/
theorem head?_toDigits (hm : m ≠ 0) : (Nat.toDigits 10 m).head? ≠ some '0' := by
  induction m using Nat.strongRecOn with
  | ind m ih =>
    by_cases hlt : m < 10
    · rw [Nat.toDigits_of_lt_base hlt, List.head?_cons]
      exact fun h => hm (Nat.digitChar_eq_zero.mp (Option.some.inj h))
    · rw [Nat.toDigits_of_base_le (by decide) (Nat.le_of_not_lt hlt), List.head?_append,
        List.head?_eq_some_head Nat.toDigits_ne_nil, Option.some_or,
        ← List.head?_eq_some_head Nat.toDigits_ne_nil]
      exact ih (m / 10) (by omega) (by omega)

theorem toList_toString_natCast (m : Nat) : (toString (m : Int)).toList = Nat.toDigits 10 m :=
  Nat.toList_repr

theorem toList_toString_neg (hm : m ≠ 0) :
    (toString (-(m : Int))).toList = '-' :: Nat.toDigits 10 m := by
  obtain ⟨k, rfl⟩ := Nat.exists_eq_succ_of_ne_zero hm
  exact (String.toList_append ..).trans (congrArg _ Nat.toList_repr)

/-- **A number has one canonical numeral**, and that is what is written. -/
theorem isCanonical_iff : IsCanonical cs n ↔ (toString n).toList = cs := by
  have hne {cs : List Char} {m : Nat} (h : IsNatural cs m) (hleading : cs.head? ≠ some '0') :
      m ≠ 0 := by
    rintro rfl
    rw [h.eq_toDigits hleading, Nat.toDigits_zero] at hleading
    exact hleading rfl
  constructor
  · intro h
    cases h with
    | zero => rfl
    | positive digits hleading =>
      rw [toList_toString_natCast, digits.eq_toDigits hleading]
    | negative digits hleading =>
      rw [toList_toString_neg (hne digits hleading), digits.eq_toDigits hleading]
  · rintro rfl
    obtain ⟨m, rfl | rfl⟩ := n.eq_nat_or_neg
    all_goals
      by_cases hm : m = 0
      · subst hm
        exact .zero
    · rw [toList_toString_natCast]
      exact .positive (isNatural_toDigits m) (head?_toDigits hm)
    · rw [toList_toString_neg hm]
      exact .negative (isNatural_toDigits m) (head?_toDigits hm)

theorem IsCanonical.isDecimal (h : IsCanonical cs n) : IsDecimal cs n := by
  cases h with
  | zero => exact .unsigned (isNatural_toDigits 0)
  | positive digits => exact .unsigned digits
  | negative digits => exact .minus digits

theorem isDecimal_decimal (w : Int64) : IsDecimal (decimal w).toList w.toInt :=
  (isCanonical_iff.mpr rfl).isDecimal

/-- **Reading undoes writing.** -/
theorem word?_decimal (w : Int64) : word? (decimal w) = some w :=
  word?_eq_some_iff.mpr (isDecimal_decimal w)

/-- What is written has no margins. -/
theorem standsFor_decimal (w : Int64) : StandsFor (decimal w) w :=
  ⟨[], (decimal w).toList, [], by simp, nofun, nofun, isDecimal_decimal w⟩

end Numeral
end CryptoUsage
