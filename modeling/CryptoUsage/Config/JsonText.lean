import CryptoUsage.Config.Document
import CryptoUsage.Numeral

/-!
# Reading JSON

A strict reader: no comments, no trailing commas, no text after the value.  Each reader takes the
characters that are left and gives back what it read and what remains.  Only the names of settings
are read as texts; other texts are only checked.  So a half of a surrogate pair is an error in the
name of a setting and nowhere else.

## What is here

* Numbers.  A whole number has no superfluous zeros (`wholeDigits?`).  With a fraction, an
  exponent or a sign it is a number all the same, and no limit (`number?`); `-0` is not a natural
  number here.
* Texts.  `codes?` reads the codes up to the closing quote, with escapes, and `ofCodes?` makes a
  text of them, where two halves of a pair make one character and a single half makes none.
* Values, lists and tables read each other (`value?`, `list?`, `table?`).  They go on for a number
  of steps that `document?` takes from the length of the text; each calls another one at most
  twice before a character is taken, so that the steps do not run out.
* `document?` reads a table, a list or a single value, which holds no settings, and refuses a text
  that goes on behind it.

Names are kept as codes until they are known to be names of settings at the top of the document.
-/

set_option autoImplicit false

namespace CryptoUsage
namespace JsonText

/-- The characters after blanks. -/
def skipBlanks (cs : List Char) : List Char :=
  cs.dropWhile fun c => c == ' ' || c == '\n' || c == '\t' || c == '\r'

/-- Whether the characters begin with a digit. -/
def beginsWithDigit : List Char → Bool
  | c :: _ => c.isDigit
  | [] => false

/-- What remains after one or more digits. -/
def afterDigits? (cs : List Char) : Option (List Char) :=
  if beginsWithDigit cs then some (cs.dropWhile Char.isDigit) else none

/-- The digits of a whole number without superfluous zeros, and what remains. -/
def wholeDigits? : List Char → Option (List Char × List Char)
  | '0' :: cs => if beginsWithDigit cs then none else some (['0'], cs)
  | cs =>
    if beginsWithDigit cs then some (cs.takeWhile Char.isDigit, cs.dropWhile Char.isDigit) else none

/-- What remains after a fraction, if there is one. -/
def afterFraction? : List Char → Option (List Char)
  | '.' :: cs => afterDigits? cs
  | cs => some cs

/-- What remains after an exponent, if there is one. -/
def afterExponent? : List Char → Option (List Char)
  | c :: cs =>
    if c = 'e' ∨ c = 'E' then
      match cs with
      | '+' :: cs | '-' :: cs => afterDigits? cs
      | cs => afterDigits? cs
    else some (c :: cs)
  | [] => some []

/-- A number that has no sign. -/
def unsigned? (cs : List Char) : Option (SettingValue × List Char) := do
  let (digits, rest) ← wholeDigits? cs
  let rest' ← afterFraction? rest
  let rest'' ← afterExponent? rest'
  let value ← Numeral.natOfDigits? 10 digits
  return (if rest''.length = rest.length then SettingValue.ofNumeral value else .other, rest'')

/-- A number. -/
def number? : List Char → Option (SettingValue × List Char)
  | '-' :: cs => (unsigned? cs).map fun (_, rest) => (.other, rest)
  | cs => unsigned? cs

/-- The value of four hexadecimal digits, and what remains. -/
def fourDigits? : List Char → Option (Nat × List Char)
  | a :: b :: c :: d :: rest => do
    let a ← Numeral.digitValue? 16 a
    let b ← Numeral.digitValue? 16 b
    let c ← Numeral.digitValue? 16 c
    let d ← Numeral.digitValue? 16 d
    return (((a * 16 + b) * 16 + c) * 16 + d, rest)
  | _ => none

/-- The character that a letter after a backslash stands for. -/
def escaped? : Char → Option Char
  | '"' => some '"'
  | '\\' => some '\\'
  | '/' => some '/'
  | 'b' => some '\x08'
  | 'f' => some '\x0c'
  | 'n' => some '\n'
  | 'r' => some '\r'
  | 't' => some '\t'
  | _ => none

/-- The code of the first character of a text, an escape counting as one, and what remains. -/
def code? : List Char → Option (Nat × List Char)
  | '\\' :: 'u' :: rest => fourDigits? rest
  | '\\' :: c :: rest => (escaped? c).map fun c => (c.toNat, rest)
  | ['\\'] => none
  | c :: rest => if c.toNat < 0x20 then none else some (c.toNat, rest)
  | [] => none

/-- The codes of a text up to its closing quote, and what remains.  Every code takes a character, so
`fuel` is the number of characters. -/
def codes? : Nat → List Char → Option (List Nat × List Char)
  | 0, _ => none
  | fuel + 1, cs =>
    match cs with
    | '"' :: rest => some ([], rest)
    | cs => do
      let (code, rest) ← code? cs
      let (codes, rest) ← codes? fuel rest
      return (code :: codes, rest)

/-- The text with the given codes, of which some may be halves of surrogate pairs. -/
def ofCodes? : List Nat → Option (List Char)
  | [] => some []
  | [code] => if 0xD800 ≤ code ∧ code ≤ 0xDFFF then none else some [Char.ofNat code]
  | code :: next :: rest =>
    if 0xD800 ≤ code ∧ code ≤ 0xDBFF then
      if 0xDC00 ≤ next ∧ next ≤ 0xDFFF then
        (ofCodes? rest).map fun cs =>
          Char.ofNat (0x10000 + (code - 0xD800) * 0x400 + (next - 0xDC00)) :: cs
      else none
    else if 0xDC00 ≤ code ∧ code ≤ 0xDFFF then none
    else (ofCodes? (next :: rest)).map fun cs => Char.ofNat code :: cs

/-- The codes of the name of a member and what remains after the colon that follows it. -/
def memberName? (cs : List Char) : Option (List Nat × List Char) :=
  match skipBlanks cs with
  | '"' :: rest => do
    let (codes, rest) ← codes? rest.length rest
    match skipBlanks rest with
    | ':' :: rest => some (codes, rest)
    | _ => none
  | _ => none

mutual

/-- A value, and what remains.  A list or a table is no value for a setting. -/
def value? : Nat → List Char → Option (SettingValue × List Char)
  | 0, _ => none
  | fuel + 1, cs =>
    match skipBlanks cs with
    | 'n' :: 'u' :: 'l' :: 'l' :: rest => some (.other, rest)
    | 't' :: 'r' :: 'u' :: 'e' :: rest => some (.truth true, rest)
    | 'f' :: 'a' :: 'l' :: 's' :: 'e' :: rest => some (.truth false, rest)
    | '"' :: rest => (codes? rest.length rest).map fun (_, rest) => (.other, rest)
    | '[' :: rest => (list? fuel rest).map fun (_, rest) => (.other, rest)
    | '\x7b' :: rest => (table? fuel rest).map fun (_, rest) => (.other, rest)
    | cs => number? cs

/-- The items of a list from behind its opening bracket, and what remains. -/
def list? : Nat → List Char → Option (List SettingValue × List Char)
  | 0, _ => none
  | fuel + 1, cs =>
    match skipBlanks cs with
    | ']' :: rest => some ([], rest)
    | cs => items? fuel cs

/-- The items of a list that is not empty, up to its closing bracket, and what remains. -/
def items? : Nat → List Char → Option (List SettingValue × List Char)
  | 0, _ => none
  | fuel + 1, cs => do
    let (item, rest) ← value? fuel cs
    match skipBlanks rest with
    | ']' :: rest => some ([item], rest)
    | ',' :: rest => do
      let (items, rest) ← items? fuel rest
      return (item :: items, rest)
    | _ => none

/-- The members of a table from behind its opening brace, and what remains.  A name is given by its
codes. -/
def table? : Nat → List Char → Option (List (List Nat × SettingValue) × List Char)
  | 0, _ => none
  | fuel + 1, cs =>
    match skipBlanks cs with
    | '\x7d' :: rest => some ([], rest)
    | cs => members? fuel cs

/-- The members of a table that is not empty, up to its closing brace, and what remains. -/
def members? : Nat → List Char → Option (List (List Nat × SettingValue) × List Char)
  | 0, _ => none
  | fuel + 1, cs => do
    let (name, rest) ← memberName? cs
    let (value, rest) ← value? fuel rest
    match skipBlanks rest with
    | '\x7d' :: rest => some ([(name, value)], rest)
    | ',' :: rest => do
      let (members, rest) ← members? fuel rest
      return ((name, value) :: members, rest)
    | _ => none

end

/-- A document, and what remains.  Every reader calls another one at most twice before it takes a
character, which bounds `fuel`. -/
def leading? (fuel : Nat) : List Char → Option (Document × List Char)
  | '[' :: rest => (list? fuel rest).map fun (items, rest) => (.list items, rest)
  | '\x7b' :: rest => do
    let (members, rest) ← table? fuel rest
    let members ← members.mapM fun (name, value) =>
      (ofCodes? name).map fun name => (String.ofList name, value)
    return (.table members, rest)
  | cs => (value? fuel cs).map fun (_, rest) => (.single, rest)

/-- The document that a text holds. -/
def document? (text : String) : Option Document := do
  let cs := skipBlanks text.toList
  let (document, rest) ← leading? (3 * cs.length + 3) cs
  guard (skipBlanks rest).isEmpty
  return document

end JsonText
end CryptoUsage
