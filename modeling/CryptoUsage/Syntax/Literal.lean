import CryptoUsage.Numeral
import CryptoUsage.Syntax.Language
import CryptoUsage.Text.Blank
import CryptoUsage.Text.Dotted

/-!
# What literals denote

Integer literals may carry underscores, a radix mark (`0x`, `0o`, `0b` in either case), and in
Java a suffix `L` and a leading zero that makes them octal.  String literals lose their quotes,
and in Python the letters in front of them.

## What is here

* `int?` reads an integer literal: blank margins are trimmed, underscores are taken out, then the
  suffix in Java, and then the mark decides the radix (`radixAndDigits`).  What is left is read as
  a numeral, so a literal that does not fit 64 bits denotes nothing.
* `unquoted` is what is inside a string literal.  Three quotes in a row are tried before one, and
  they have to stand at both ends.  Escapes inside are left as they are written.
* `isBytes` tells byte strings of Python by the letters in front of them.
-/

set_option autoImplicit false

namespace CryptoUsage
namespace Literal

/-- The characters without a final `c`, if they end in one. -/
def dropLast? (c : Char) (cs : List Char) : Option (List Char) :=
  if cs.getLast? = some c then some cs.dropLast else none

/-- The characters of an integer literal without its type suffix: one `L` or `l` in Java. -/
def withoutSuffix (language : Language) (cs : List Char) : List Char :=
  match language with
  | .java => ((dropLast? 'L' cs).orElse fun _ => dropLast? 'l' cs).getD cs
  | .python => cs

/-- The radix of an integer literal without suffix, and its digits. -/
def radixAndDigits (language : Language) : List Char → Nat × List Char
  | '0' :: 'x' :: digits => (16, digits)
  | '0' :: 'X' :: digits => (16, digits)
  | '0' :: 'o' :: digits => (8, digits)
  | '0' :: 'O' :: digits => (8, digits)
  | '0' :: 'b' :: digits => (2, digits)
  | '0' :: 'B' :: digits => (2, digits)
  | '0' :: c :: digits => if language = .java then (8, c :: digits) else (10, '0' :: c :: digits)
  | digits => (10, digits)

/-- The word that an integer literal denotes, if it fits. -/
def int? (language : Language) (text : String) : Option Int64 :=
  let bare := withoutSuffix language ((Text.trimChars text.toList).filter (· != '_'))
  let (radix, digits) := radixAndDigits language bare
  Numeral.wordOfChars? radix digits

/-- The text between the given quotes, if the characters begin and end with them. -/
def between? (quote cs : List Char) : Option (List Char) :=
  if 2 * quote.length ≤ cs.length ∧ quote.isPrefixOf cs ∧ quote.isSuffixOf cs then
    some ((cs.drop quote.length).take (cs.length - 2 * quote.length))
  else none

/-- The quotes a string literal may have, longer ones first. -/
def quotes : List (List Char) :=
  [['"', '"', '"'], ['\'', '\'', '\''], ['"'], ['\'']]

/-- The letters that may stand in front of a Python string literal. -/
def isStringMark (c : Char) : Bool := "rRbBuUfF".toList.contains c

/-- What is inside a string literal. -/
def unquoted (language : Language) (text : String) : String :=
  let cs := Text.trimChars text.toList
  let cs :=
    match language with
    | .python => cs.dropWhile isStringMark
    | .java => cs
  String.ofList ((quotes.findSome? fun quote => between? quote cs).getD cs)

/-- Whether a letter in front of a Python string literal makes it a byte string. -/
def isBytes (text : String) : Bool :=
  ((text.toList.dropWhile Text.isBlank).takeWhile Char.isAlpha).any fun c => c == 'b' || c == 'B'

end Literal
end CryptoUsage
