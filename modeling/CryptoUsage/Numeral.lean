/-!
# Signed 64-bit numerals

Whole numbers are 64-bit words throughout the library, and a numeral denotes one only if its value
fits.  Reading goes through `Int`, where nothing can wrap, and checks the range once at the end;
so a numeral that is too large is refused and never reduced.

A numeral is an optional sign followed by at least one digit of its radix, in either case.

## What is here

* Reading.  `digitsAfter?` adds up digits from the left, `intOfChars?` takes care of the sign, and
  `wordOfInt?` of the range; `wordOfChars?` is the three together, for any radix, and `word?` for
  decimal texts.
* Writing.  `decimal` is the decimal numeral of a word.

Literals of a program, casts of texts to numbers and numbers in configurations are all read with
these functions, so they agree on what a numeral is.  That reading is exact, and undoes writing,
is proved in the files on decimal numerals and on integer literals.
-/

set_option autoImplicit false

namespace CryptoUsage
namespace Numeral

/-- The value of a digit or letter, if it is a digit of the radix. -/
def digitValue? (radix : Nat) (c : Char) : Option Nat :=
  let value? :=
    if '0' ≤ c ∧ c ≤ '9' then some (c.toNat - '0'.toNat)
    else if 'a' ≤ c ∧ c ≤ 'z' then some (c.toNat - 'a'.toNat + 10)
    else if 'A' ≤ c ∧ c ≤ 'Z' then some (c.toNat - 'A'.toNat + 10)
    else none
  value?.filter (· < radix)

/-- The value of `acc` followed by the digits `cs`. -/
def digitsAfter? (radix : Nat) (acc : Nat) : List Char → Option Nat
  | [] => some acc
  | c :: cs => (digitValue? radix c).bind fun d => digitsAfter? radix (acc * radix + d) cs

/-- The value of a non-empty list of digits. -/
def natOfDigits? (radix : Nat) : List Char → Option Nat
  | [] => none
  | c :: cs => digitsAfter? radix 0 (c :: cs)

/-- The value of a numeral with an optional sign. -/
def intOfChars? (radix : Nat) : List Char → Option Int
  | '-' :: cs => (natOfDigits? radix cs).map fun n => -(n : Int)
  | '+' :: cs => (natOfDigits? radix cs).map fun n => (n : Int)
  | cs => (natOfDigits? radix cs).map fun n => (n : Int)

/-- The word with the given value, if there is one. -/
def wordOfInt? (n : Int) : Option Int64 :=
  if Int64.minValue.toInt ≤ n ∧ n ≤ Int64.maxValue.toInt then some (Int64.ofInt n) else none

/-- The word that a numeral in the given radix denotes. -/
def wordOfChars? (radix : Nat) (cs : List Char) : Option Int64 :=
  (intOfChars? radix cs).bind wordOfInt?

/-- The word that a decimal numeral denotes. -/
def word? (s : String) : Option Int64 := wordOfChars? 10 s.toList

/-- The decimal numeral of a word, with a sign only if it is negative. -/
def decimal (n : Int64) : String := toString n.toInt

/-- Without a sign, a numeral has the value of its digits. -/
theorem intOfChars?_of_unsigned {radix : Nat} {cs : List Char} (hminus : cs.head? ≠ some '-')
    (hplus : cs.head? ≠ some '+') :
    intOfChars? radix cs = (natOfDigits? radix cs).map Int.ofNat := by
  rw [intOfChars?.eq_def]
  split
  · exact absurd rfl hminus
  · exact absurd rfl hplus
  · cases natOfDigits? radix cs <;> rfl

theorem wordOfInt?_toInt (n : Int64) : wordOfInt? n.toInt = some n := by
  rw [wordOfInt?, if_pos ⟨Int64.minValue_le_toInt n, Int64.toInt_le n⟩, Int64.ofInt_toInt]

theorem toInt_of_wordOfInt? {n : Int} {w : Int64} (h : wordOfInt? n = some w) : w.toInt = n := by
  rw [wordOfInt?] at h
  split at h
  · next hn =>
    cases h
    have hmax : Int64.maxValue.toInt = 2 ^ 63 - 1 := by decide
    have hmin : Int64.minValue.toInt = -2 ^ 63 := by decide
    exact Int64.toInt_ofInt_of_le (by omega) (by omega)
  · cases h

end Numeral
end CryptoUsage
