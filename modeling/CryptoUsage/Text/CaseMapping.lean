import CryptoUsage.Text.CaseTable

/-!
# Upper and lower case

The full case conversion of texts: every character is replaced by its image under the tables of
`CaseTable`, which may be longer than one character.  Only one character looks at its neighbours:
a capital sigma becomes the final form `ς` exactly when, leaving out case-ignorable characters, a
cased character stands before it and none stands after it.

## What is here

* `caseImage` is the image of one character: one of the listed expansions, or a simple mapping, or
  the character itself.
* `lowerAfter` goes through a text from left to right and keeps what stands before in reverse,
  which is what the condition on a sigma asks about.
* `toLowercase` and `toUppercase` are the selections on texts that change their case, and the
  former also makes names of languages and extensions of files comparable.
* `agreesIgnoringAsciiCase` compares names whose letters beyond ASCII have to be the same.
-/

set_option autoImplicit false

namespace CryptoUsage
namespace Text

/-- The image of a code point under a table of runs. -/
def runImage? (runs : List (Nat × Nat × Nat × Nat)) (n : Nat) : Option Nat :=
  (runs.find? fun (first, last, step, _) => first ≤ n && n ≤ last && (n - first) % step == 0).map
    fun (first, _, _, target) => target + (n - first)

/-- The image of a character: an expansion, or a simple mapping, or the character itself. -/
def caseImage (runs : List (Nat × Nat × Nat × Nat)) (expansions : List (Nat × List Nat))
    (c : Char) : List Char :=
  match expansions.lookup c.toNat with
  | some image => image.map Char.ofNat
  | none =>
    match runImage? runs c.toNat with
    | some n => [Char.ofNat n]
    | none => [c]

/-- Whether a code point lies in one of the ranges. -/
def inRanges (ranges : List (Nat × Nat)) (n : Nat) : Bool :=
  ranges.any fun (first, last) => first ≤ n && n ≤ last

/-- Whether the first character that is not case-ignorable is cased. -/
def startsCased (cs : List Char) : Bool :=
  match cs.dropWhile fun c => inRanges caseIgnorableRanges c.toNat with
  | [] => false
  | c :: _ => inRanges casedRanges c.toNat

/-- The lower-case form of the characters `cs` that follow `before`, which is kept in reverse. -/
def lowerAfter (before : List Char) : List Char → List Char
  | [] => []
  | 'Σ' :: cs =>
    (if startsCased before && !startsCased cs then 'ς' else 'σ') :: lowerAfter ('Σ' :: before) cs
  | c :: cs => caseImage lowerRuns lowerExpansions c ++ lowerAfter (c :: before) cs

/-- The lower-case form of a text. -/
def toLowercase (s : String) : String := String.ofList (lowerAfter [] s.toList)

/-- The upper-case form of a text. -/
def toUppercase (s : String) : String :=
  String.ofList (s.toList.flatMap (caseImage upperRuns upperExpansions))

/-- Whether two texts are equal up to the case of ASCII letters. -/
def agreesIgnoringAsciiCase (s t : String) : Bool :=
  s.toList.map Char.toLower == t.toList.map Char.toLower

end Text
end CryptoUsage
