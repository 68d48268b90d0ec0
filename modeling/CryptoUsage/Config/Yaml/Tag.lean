import CryptoUsage.Config.Yaml.Source
import CryptoUsage.Numeral

/-!
# Tags

A tag says what kind of value a node is.  It is written in full between angle brackets, or as a
*handle* and a suffix; a handle stands for the octets that a directive has given it.  Octets may
be escaped, a whole character at a time, and an octet zero ends what it stands in.

## What is here

* `Kind` has the two tags that make a difference to settings, that of whole numbers and that of
  truth values; every other tag is known only as not being one of them.
* Octets as they are written.  `octetsFrom?` reads characters that may stand in a tag and escapes
  of whole characters, whose first octet says how many follow.
* Handles.  `handle?` reads the handle behind an exclamation mark, `tag?` a whole tag, and
  `TagText.resolve?` looks up what the handle stands for, by the directives of the document or
  else by the standard ones.
-/

set_option autoImplicit false

namespace CryptoUsage
namespace Yaml

/-- A tag, or a part of one. -/
abbrev Octets := List UInt8

/-- The octets of a text of ASCII characters. -/
def octets (cs : List Char) : Octets := cs.map fun c => c.toNat.toUInt8

/-- The tags of the values that settings can have. -/
inductive Kind where
  | int
  | bool
deriving DecidableEq, Repr

/-- What the tags of the standard begin with. -/
def standardStem : Octets := octets "tag:yaml.org,2002:".toList

/-- The tag of a kind. -/
def Kind.tag : Kind → Octets
  | .int => standardStem ++ octets "int".toList
  | .bool => standardStem ++ octets "bool".toList

/-! ## Octets as they are written -/

/-- Whether a character may stand in a tag.  Only where the end of the tag is marked may it be one
of those that separate the items of a list. -/
def isTagChar (delimited : Bool) (c : Char) : Bool :=
  isNameChar c || ";/?:@&=+$.!~*'()".toList.contains c || (delimited && ",[]".toList.contains c)

/-- An octet written as a percent sign and two hexadecimal digits, and what remains. -/
def escapedOctet? : List Char → Option (UInt8 × List Char)
  | '%' :: a :: b :: rest =>
    (Numeral.natOfDigits? 16 [a, b]).map fun octet => (octet.toUInt8, rest)
  | _ => none

/-- How many octets follow the first octet of a character. -/
def followers? (octet : UInt8) : Option Nat :=
  if octet &&& 0x80 = 0 then some 0
  else if octet &&& 0xE0 = 0xC0 then some 1
  else if octet &&& 0xF0 = 0xE0 then some 2
  else if octet &&& 0xF8 = 0xF0 then some 3
  else none

/-- Escaped octets that follow the first one of a character, and what remains. -/
def escapedFollowers? : Nat → List Char → Option (Octets × List Char)
  | 0, cs => some ([], cs)
  | n + 1, cs => do
    let (octet, rest) ← escapedOctet? cs
    guard (octet &&& 0xC0 == 0x80)
    let (octets, rest) ← escapedFollowers? n rest
    return (octet :: octets, rest)

/-- The octets of an escaped character, and what remains. -/
def escapedChar? (cs : List Char) : Option (Octets × List Char) := do
  let (octet, rest) ← escapedOctet? cs
  let (octets, rest) ← escapedFollowers? (← followers? octet) rest
  return (octet :: octets, rest)

/-- The octets that are written here, and what remains.  Every step takes a character, so `fuel` is
the number of characters. -/
def octetsFrom? (delimited : Bool) : Nat → List Char → Option (Octets × List Char)
  | 0, cs => some ([], cs)
  | _ + 1, [] => some ([], [])
  | fuel + 1, c :: cs =>
    if c = '%' then do
      let (first, rest) ← escapedChar? (c :: cs)
      let (octets, rest) ← octetsFrom? delimited fuel rest
      return (first ++ octets, rest)
    else if isTagChar delimited c then do
      let (octets, rest) ← octetsFrom? delimited fuel cs
      return (c.toNat.toUInt8 :: octets, rest)
    else some ([], c :: cs)

/-- The octets that are written behind a text, up to an octet zero, and what remains.  There is at
least one. -/
def octetsAfter? (delimited : Bool) (front : List Char) (cs : List Char) :
    Option (Octets × List Char) := do
  let (back, rest) ← octetsFrom? delimited cs.length cs
  let all := octets front ++ back
  guard !all.isEmpty
  return (all.takeWhile (· != 0), rest)

/-! ## Handles -/

/-- A tag as it is written: a suffix behind a handle, or the whole tag. -/
structure TagText where
  handle : Option String
  suffix : Octets
deriving DecidableEq, Repr

/-- The handle that begins behind an exclamation mark, and what remains. -/
def handle? (cs : List Char) : Option (String × List Char) :=
  let (name, rest) := cs.span isNameChar
  match rest with
  | '!' :: rest => some (String.ofList ('!' :: name ++ ['!']), rest)
  | _ => none

/-- The tag from behind its exclamation mark, and what remains. -/
def tag? (cs : List Char) : Option (TagText × List Char) :=
  match cs with
  | '<' :: rest => do
    let (suffix, rest) ← octetsAfter? true [] rest
    guard (rest.head? == some '>')
    return ({ handle := none, suffix }, rest.tail)
  | cs =>
    match handle? cs with
    | some (handle, rest) =>
      (octetsAfter? false [] rest).map fun (suffix, rest) =>
        ({ handle := some handle, suffix }, rest)
    | none =>
      (octetsAfter? false ['!'] cs).map fun (all, rest) =>
        match all.tail with
        | [] => ({ handle := none, suffix := all }, rest)
        | suffix => ({ handle := some "!", suffix }, rest)

/-- What the handles stand for. -/
abbrev TagHandles := List (String × Octets)

/-- What handles stand for if no directive says otherwise. -/
def standardHandles : TagHandles := [("!", octets ['!']), ("!!", standardStem)]

/-- The tag that is meant. -/
def TagText.resolve? (handles : TagHandles) (tag : TagText) : Option Octets :=
  match tag.handle with
  | none => some tag.suffix
  | some handle => (handles.lookup handle).map (· ++ tag.suffix)

end Yaml
end CryptoUsage
