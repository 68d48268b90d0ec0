/-!
# The characters of a YAML text

Line breaks are written in several ways and all mean the same, so a text is read with each of them
replaced by a newline.  What is left of a text is a list of characters; a `Cursor` is such a list
together with the place where it begins, because columns and lines decide how a token is meant.

## What is here

* `normalized` replaces line breaks, and `isPrintable` says which characters may stand in a text
  at all.
* Kinds of characters: those that separate words on a line or across lines, those of names, and
  the three equal characters that mark the start or the end of a document when they begin a line.
* `endOfLine?` is for what has a line to itself: it passes over spaces and a comment up to the
  end.
* `Cursor.next` goes on by one character.  It counts lines, columns and bytes, since a limit on
  the length of names is one of bytes; `Cursor.moveTo` goes on to where a reader has stopped.
-/

set_option autoImplicit false

namespace CryptoUsage
namespace Yaml

/-- The characters with every line break written as one newline. -/
def normalized : List Char → List Char
  | '\r' :: '\n' :: cs => '\n' :: normalized cs
  | c :: cs =>
    (if ['\r', '\x85', '\u2028', '\u2029'].contains c then '\n' else c) :: normalized cs
  | [] => []

/-- Whether a character may stand in a text at all. -/
def isPrintable (c : Char) : Bool :=
  let n := c.toNat
  n == 0x09 || n == 0x0A || (0x20 ≤ n && n ≤ 0x7E) || (0xA0 ≤ n && n ≤ 0xFFFD) || 0x10000 ≤ n

/-- Whether a character separates words on a line. -/
def isSpace (c : Char) : Bool := c == ' ' || c == '\t'

/-- Whether a character separates words. -/
def isGap (c : Char) : Bool := isSpace c || c == '\n'

/-- Whether a character may stand in the name of an anchor, of a directive or of a tag handle. -/
def isNameChar (c : Char) : Bool := c.isAlphanum || c == '_' || c == '-'

/-- Whether a word ends before these characters. -/
def endsWord : List Char → Bool
  | c :: _ => isGap c
  | [] => true

/-- Whether three equal characters and the end of a word stand here. -/
def beginsMark (c : Char) : List Char → Bool
  | a :: b :: d :: rest => a == c && b == c && d == c && endsWord rest
  | _ => false

/-- Whether the line that begins here is marked as the start or the end of a document. -/
def beginsDocumentMark (line : List Char) : Bool := beginsMark '-' line || beginsMark '.' line

/-- What remains after spaces on a line. -/
def skipSpaces (cs : List Char) : List Char := cs.dropWhile isSpace

/-- What remains, from the end of the line, if nothing but spaces and a comment is left on it. -/
def endOfLine? (cs : List Char) : Option (List Char) :=
  match skipSpaces cs with
  | [] => some []
  | '\n' :: rest => some ('\n' :: rest)
  | '#' :: rest => some (rest.dropWhile (· != '\n'))
  | _ => none

/-- A place in a text: the characters from there on, its line and column, and the number of bytes
before it. -/
structure Cursor where
  rest : List Char
  line : Nat := 0
  column : Nat := 0
  offset : Nat := 0

namespace Cursor

/-- The place behind the next character. -/
def next (cursor : Cursor) : Cursor :=
  match cursor.rest with
  | [] => cursor
  | c :: rest =>
    if c = '\n' then
      { rest, line := cursor.line + 1, column := 0, offset := cursor.offset + 1 }
    else
      { rest, line := cursor.line, column := cursor.column + 1
        offset := cursor.offset + c.utf8Size }

/-- The place behind the next `n` characters. -/
def skip (cursor : Cursor) : Nat → Cursor
  | 0 => cursor
  | n + 1 => cursor.next.skip n

/-- The place further on from which `rest` remains. -/
def moveTo (cursor : Cursor) (rest : List Char) : Cursor :=
  cursor.skip (cursor.rest.length - rest.length)

end Cursor

end Yaml
end CryptoUsage
