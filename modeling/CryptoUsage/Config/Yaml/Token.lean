import CryptoUsage.Config.Yaml.Scalar
import CryptoUsage.Config.Yaml.Tag

/-!
# Tokens

What a YAML text is made of.  Collections in a block have no marks of their own in the text; their
start and end are tokens all the same, and so is the start of a name that no question mark
announces.

This module also reads the tokens that mean the same wherever they stand: names behind their marks
and directives.

## What is here

* `Token`, with a constructor for each mark, each start and end of a collection, for names of
  anchors and aliases, for tags, scalars and directives.
* `anchorName?` reads the name of an anchor or an alias, which must be followed by something that
  can follow a word.
* `directive?` reads a version of two numbers, or a handle and the octets it stands for, up to the
  end of the line.  Any other directive is an error, and so is a version number of more than nine
  digits.
-/

set_option autoImplicit false

namespace CryptoUsage
namespace Yaml

/-- A token of a YAML text. -/
inductive Token where
  /-- The version that a directive names. -/
  | version (major minor : Nat)
  /-- What a directive lets a handle stand for. -/
  | handle (name : String) (stem : Octets)
  | documentStart
  | documentEnd
  | blockSequenceStart
  | blockMappingStart
  | blockEnd
  | flowSequenceStart
  | flowSequenceEnd
  | flowMappingStart
  | flowMappingEnd
  /-- The dash in front of an item. -/
  | blockEntry
  /-- The comma between items. -/
  | flowEntry
  | key
  | value
  /-- An alias for the node with an anchor. -/
  | reference (name : String)
  | anchor (name : String)
  | tag (text : TagText)
  | scalar (style : Style) (text : String)
deriving DecidableEq, Repr

/-- The name of an anchor from behind its mark, and what remains. -/
def anchorName? (cs : List Char) : Option (String × List Char) :=
  let (name, rest) := cs.span isNameChar
  if !name.isEmpty && (endsWord rest || rest.head?.any "?:,]\x7d%@\x60".toList.contains) then
    some (String.ofList name, rest)
  else none

/-- A number in a version, of at most nine digits, and what remains. -/
def versionNumber? (cs : List Char) : Option (Nat × List Char) := do
  let (digits, rest) := cs.span Char.isDigit
  guard (digits.length ≤ 9)
  return (← Numeral.natOfDigits? 10 digits, rest)

/-- The version that a directive names, and what remains. -/
def versionDirective? (cs : List Char) : Option (Token × List Char) := do
  let (major, rest) ← versionNumber? cs
  guard (rest.head? == some '.')
  let (minor, rest) ← versionNumber? rest.tail
  return (.version major minor, rest)

/-- A handle and what a directive lets it stand for, and what remains.  A single exclamation mark is
a handle here. -/
def handleDirective? (cs : List Char) : Option (Token × List Char) := do
  guard (cs.head? == some '!')
  let (name, rest) ← (handle? cs.tail).or (some ("!", cs.tail))
  guard (rest.head?.any isSpace)
  let (stem, rest) ← octetsAfter? true [] (skipSpaces rest)
  guard (endsWord rest)
  return (.handle name stem, rest)

/-- The directive from behind its percent sign, and what remains from the end of its line. -/
def directive? (cs : List Char) : Option (Token × List Char) := do
  let (name, rest) := cs.span isNameChar
  guard (endsWord rest)
  let (token, rest) ←
    match String.ofList name with
    | "YAML" => versionDirective? (skipSpaces rest)
    | "TAG" => handleDirective? (skipSpaces rest)
    | _ => none
  return (token, ← endOfLine? rest)

end Yaml
end CryptoUsage
