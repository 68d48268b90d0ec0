/-!
# Report documents

What the library reports about constants, findings and scans is a document: numbers, texts, lists
and members in a fixed order.  `Json.render` writes one as compact text.  Inside quotes only the
quote, the backslash and the control characters below `U+0020` are escaped.

## What is here

* `Json` is the type of documents.  Numbers are whole, since nothing else is reported, and the
  members of an object keep the order in which they are given.
* `Json.quote` writes a text; control characters have short escapes where there are any, and
  others are written with four hexadecimal digits.  Characters beyond ASCII stand for themselves.
* `Json.render` has no blanks and no line breaks between the parts of a document, and
  `Json.ofOption` writes what is absent as `null`.

The documents of single things are defined beside these things: those of constants, locations,
detected values, findings and outcomes of scans.
-/

set_option autoImplicit false

namespace CryptoUsage

/-- A document of whole numbers, truth values, texts, lists and named members. -/
inductive Json where
  | null
  | bool (b : Bool)
  | num (n : Int)
  | str (s : String)
  | arr (items : List Json)
  | obj (members : List (String × Json))

namespace Json

/-- A hexadecimal digit in lower case. -/
def hexDigit (n : Nat) : Char := Nat.digitChar (n % 16)

/-- The characters that stand for `c` between quotes. -/
def escape (c : Char) : List Char :=
  match c with
  | '"' => ['\\', '"']
  | '\\' => ['\\', '\\']
  | '\n' => ['\\', 'n']
  | '\r' => ['\\', 'r']
  | '\t' => ['\\', 't']
  | '\x08' => ['\\', 'b']
  | '\x0c' => ['\\', 'f']
  | c =>
    if c.toNat < 0x20 then ['\\', 'u', '0', '0', hexDigit (c.toNat / 16), hexDigit c.toNat]
    else [c]

/-- A text in quotes. -/
def quote (s : String) : String :=
  String.ofList ('"' :: s.toList.flatMap escape ++ ['"'])

mutual

/-- The compact text of a document. -/
def render : Json → String
  | null => "null"
  | bool b => if b then "true" else "false"
  | num n => toString n
  | str s => quote s
  | arr items => "[" ++ ",".intercalate (renderItems items) ++ "]"
  | obj members => "\x7b" ++ ",".intercalate (renderMembers members) ++ "\x7d"

/-- The compact texts of the items of a list. -/
def renderItems : List Json → List String
  | [] => []
  | item :: items => render item :: renderItems items

/-- The compact texts of members, each a name in quotes and its document. -/
def renderMembers : List (String × Json) → List String
  | [] => []
  | (name, value) :: members => (quote name ++ ":" ++ render value) :: renderMembers members

end

/-- The document for a value that may be absent. -/
def ofOption {α : Type} (f : α → Json) : Option α → Json
  | none => null
  | some a => f a

end Json

end CryptoUsage
