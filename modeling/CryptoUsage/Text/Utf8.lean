/-!
# Texts cut out of UTF-8 bytes

Nodes of a syntax tree are given by byte offsets into the source.  A cut that falls between
characters gives back the text itself; a cut through a character leaves bytes that encode nothing,
and each longest run of bytes that begins a character without completing it reads as one
replacement character.

## What is here

* `leadShape?` says how many bytes follow a leading byte and in which range the first of them
  lies, which rules out overlong forms, surrogates and what is beyond the last code point.
* `decodeLossy` reads bytes as characters with `replacement` for what encodes none, and `slice` is
  the text between two offsets.
* `ofBytes?` is the strict reading of a whole file, which is refused if its bytes are not valid.
* `lineStarts` and `rowAndColumn` find the place of an offset, counted from zero and with columns
  in bytes; the locations in reports are counted from one.
-/

set_option autoImplicit false

namespace CryptoUsage
namespace Text

/-- The character written in place of bytes that encode none. -/
def replacement : Char := '\uFFFD'

/-- Whether a byte continues a character. -/
def isTail (b : UInt8) : Bool := 0x80 ≤ b && b ≤ 0xBF

/-- The six payload bits of a continuation byte. -/
def tailBits (b : UInt8) : Nat := b.toNat % 64

/-- How many continuation bytes follow a leading byte, and the range of the first of them. -/
def leadShape? (b : UInt8) : Option (Nat × UInt8 × UInt8) :=
  if 0xC2 ≤ b && b ≤ 0xDF then some (1, 0x80, 0xBF)
  else if b == 0xE0 then some (2, 0xA0, 0xBF)
  else if b == 0xED then some (2, 0x80, 0x9F)
  else if 0xE1 ≤ b && b ≤ 0xEF then some (2, 0x80, 0xBF)
  else if b == 0xF0 then some (3, 0x90, 0xBF)
  else if 0xF1 ≤ b && b ≤ 0xF3 then some (3, 0x80, 0xBF)
  else if b == 0xF4 then some (3, 0x80, 0x8F)
  else none

/-- The character that the bytes `a :: rest` begin with, and how many bytes of `rest` belong to it.
When they begin with none, what is counted is the part of `rest` that still looked like one. -/
def firstChar (a : UInt8) (rest : List UInt8) : Char × Nat :=
  if a < 0x80 then (Char.ofNat a.toNat, 0)
  else
    match leadShape? a, rest with
    | some (tails, low, high), b :: rest =>
      if !(low ≤ b && b ≤ high) then (replacement, 0)
      else if tails == 1 then (Char.ofNat (a.toNat % 32 * 64 + tailBits b), 1)
      else
        match rest with
        | [] => (replacement, 1)
        | c :: rest =>
          if !isTail c then (replacement, 1)
          else if tails == 2 then
            (Char.ofNat ((a.toNat % 16 * 64 + tailBits b) * 64 + tailBits c), 2)
          else
            match rest with
            | [] => (replacement, 2)
            | d :: _ =>
              if !isTail d then (replacement, 2)
              else
                (Char.ofNat (((a.toNat % 8 * 64 + tailBits b) * 64 + tailBits c) * 64 + tailBits d),
                  3)
    | _, _ => (replacement, 0)

/-- The characters of a byte sequence, with `replacement` for what encodes none. -/
def decodeLossy : List UInt8 → List Char
  | [] => []
  | a :: rest => (firstChar a rest).1 :: decodeLossy (rest.drop (firstChar a rest).2)
termination_by bytes => bytes.length
decreasing_by simp only [List.length_drop, List.length_cons]; omega

/-- The text of the bytes from `start` up to `stop`. -/
def slice (bytes : ByteArray) (start stop : Nat) : String :=
  let cut := bytes.extract start stop
  match String.fromUTF8? cut with
  | some s => s
  | none => String.ofList (decodeLossy cut.toList)

/-- The text that a file's bytes encode, if they are valid. -/
def ofBytes? (bytes : ByteArray) : Option String := String.fromUTF8? bytes

/-- The byte offsets at which the lines of a text start, in order. -/
def lineStarts (source : String) : List Nat :=
  0 :: (source.toUTF8.toList.zipIdx.filter fun (b, _) => b == 0x0A).map fun (_, i) => i + 1

/-- The row and the column of a byte offset, both counted from zero, the column in bytes. -/
def rowAndColumn (starts : List Nat) (offset : Nat) : Nat × Nat :=
  let before := starts.takeWhile (· ≤ offset)
  (before.length - 1, offset - before.getLastD 0)

end Text
end CryptoUsage
