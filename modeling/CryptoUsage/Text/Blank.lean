/-!
# Blank characters

A character is *blank* when it has the Unicode property `White_Space`.  Numerals, quoted strings
and trimmed constants all lose their blank margins by this one rule, so it is stated once, on
lists of characters, with the `String` forms beside it.

`trim` removes blanks from both ends and from nowhere else; `exists_append_trim` says that what it
removed was blank, and `trimChars_append` that blank margins are removed whole.

## What is here

* `isBlank`, as a list of the characters with the property.
* `dropSuffixWhile` drops at the end of a list what `dropWhile` drops at its beginning, and
  `trimChars` does both.
* `trim` for texts, with `toList_trim` to get from one form to the other.

The lemmas are used where numerals are read from texts that may have blank margins.
-/

set_option autoImplicit false

namespace CryptoUsage
namespace Text

/-- The characters with the Unicode property `White_Space`. -/
def isBlank (c : Char) : Bool :=
  let n := c.toNat
  (0x09 ≤ n && n ≤ 0x0D) || n == 0x20 || n == 0x85 || n == 0xA0 || n == 0x1680 ||
    (0x2000 ≤ n && n ≤ 0x200A) || n == 0x2028 || n == 0x2029 || n == 0x202F || n == 0x205F ||
    n == 0x3000

/-- The characters from the first one on that fails `p`, at the end of the list: what is left when
the longest suffix satisfying `p` is dropped. -/
def dropSuffixWhile (p : Char → Bool) (cs : List Char) : List Char :=
  (cs.reverse.dropWhile p).reverse

/-- A list of characters without its blank margins. -/
def trimChars (cs : List Char) : List Char :=
  dropSuffixWhile isBlank (cs.dropWhile isBlank)

/-- A text without its blank margins. -/
def trim (s : String) : String := String.ofList (trimChars s.toList)

@[simp] theorem toList_trim (s : String) : (trim s).toList = trimChars s.toList := by
  simp [trim]

/-- What `dropSuffixWhile` drops satisfies the test, and nothing else is touched. -/
theorem exists_append_dropSuffixWhile (p : Char → Bool) (cs : List Char) :
    ∃ tail, cs = dropSuffixWhile p cs ++ tail ∧ ∀ c ∈ tail, p c = true := by
  refine ⟨(cs.reverse.takeWhile p).reverse, ?_, ?_⟩
  · rw [dropSuffixWhile, ← List.reverse_append, List.takeWhile_append_dropWhile,
      List.reverse_reverse]
  · intro c hc
    rw [List.mem_reverse] at hc
    exact List.all_eq_true.mp List.all_takeWhile c hc

/-- Trimming removes only blank margins. -/
theorem exists_append_trim (cs : List Char) :
    ∃ front tail, cs = front ++ trimChars cs ++ tail ∧
      (∀ c ∈ front, isBlank c = true) ∧ ∀ c ∈ tail, isBlank c = true := by
  obtain ⟨tail, hcs, htail⟩ := exists_append_dropSuffixWhile isBlank (cs.dropWhile isBlank)
  refine ⟨cs.takeWhile isBlank, tail, ?_, ?_, htail⟩
  · rw [List.append_assoc, trimChars, ← hcs, List.takeWhile_append_dropWhile]
  · intro c hc
    exact List.all_eq_true.mp List.all_takeWhile c hc

/-- Without blanks there is nothing to drop. -/
theorem dropWhile_of_not_isBlank {cs : List Char} (h : ∀ c ∈ cs, isBlank c = false) :
    cs.dropWhile isBlank = cs := by
  cases cs with
  | nil => rfl
  | cons c cs => rw [List.dropWhile_cons_of_neg (by simp [h c (by simp)])]

/-- Between blank margins, what has no blanks is all that trimming leaves. -/
theorem trimChars_append {front cs tail : List Char} (hfront : ∀ c ∈ front, isBlank c = true)
    (hcs : ∀ c ∈ cs, isBlank c = false) (htail : ∀ c ∈ tail, isBlank c = true) :
    trimChars (front ++ cs ++ tail) = cs := by
  rw [trimChars, List.append_assoc, List.dropWhile_append_of_pos hfront]
  cases cs with
  | nil =>
    rw [List.nil_append, ← List.append_nil tail, List.dropWhile_append_of_pos htail]
    rfl
  | cons c cs =>
    have hstop : (c :: cs ++ tail).dropWhile isBlank = c :: cs ++ tail := by
      rw [List.cons_append, List.dropWhile_cons_of_neg (by simp [hcs c])]
    rw [hstop, dropSuffixWhile, List.reverse_append,
      List.dropWhile_append_of_pos fun d hd => htail d (List.mem_reverse.mp hd),
      dropWhile_of_not_isBlank fun d hd => hcs d (List.mem_reverse.mp hd), List.reverse_reverse]

end Text
end CryptoUsage
