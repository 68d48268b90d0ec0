import CryptoUsage.Config.Yaml.Source
import CryptoUsage.Numeral

/-!
# Scalars as they are written

A scalar is written plainly, in quotes, or as a block of lines.  Each reader gives back the text
that is meant and what remains.

A plain or quoted text may go over several lines.  Where it does, the gap between two words is
*folded*: one line break stands for a space, and of more than one the first is dropped.

## What is here

* Gaps.  What a gap between words stands for (`foldedGap`), and where a tab may not stand in one.
* Plain scalars.  They begin with any character that has no other meaning there (`beginsPlain`),
  and go on word by word until a comment, a mark or a line that is indented too little (`plain?`).
* Quoted scalars.  `quoted?` reads single and double quotes, with a doubled quote in the first and
  with escapes in the second.
* Block scalars.  The header says how lines are indented and what becomes of the line breaks at
  the end (`blockHeader?`).  Lines are read with the blank lines in front of them (`blockLines?`),
  and joined as they are in a literal block and folded in a folded one (`linesText`).
-/

set_option autoImplicit false

namespace CryptoUsage
namespace Yaml

/-- How a scalar is written. -/
inductive Style where
  | plain
  | quoted
  /-- A block whose line breaks are kept. -/
  | literal
  /-- A block whose line breaks are folded. -/
  | folded
deriving DecidableEq, Repr

/-! ## Gaps -/

/-- What a number of line breaks stands for between two words. -/
def foldedBreaks (count : Nat) : List Char :=
  if count = 1 then [' '] else List.replicate (count - 1) '\n'

/-- What a gap between two words stands for. -/
def foldedGap (gap : List Char) : List Char :=
  if gap.contains '\n' then foldedBreaks (gap.count '\n') else gap

/-- Whether a tab stands in front of column `indent` of a line that begins in the gap.  The gap goes
on in the given column of such a line, if it has one. -/
def hasEarlyTab (indent : Nat) : Option Nat → List Char → Bool
  | _, [] => false
  | _, '\n' :: gap => hasEarlyTab indent (some 0) gap
  | none, _ :: gap => hasEarlyTab indent none gap
  | some column, c :: gap =>
    (c == '\t' && column < indent) || hasEarlyTab indent (some (column + 1)) gap

/-! ## Plain scalars -/

/-- Whether a character has a meaning of its own between brackets. -/
def isFlowMark (c : Char) : Bool := ",[]\x7b\x7d".toList.contains c

/-- Whether a plain scalar can begin here. -/
def beginsPlain (inFlow : Bool) : List Char → Bool
  | [] => false
  | c :: cs =>
    if c == '-' then !cs.head?.any isSpace
    else if c == '?' || c == ':' then !inFlow && !endsWord cs
    else !isGap c && !isFlowMark c && !"#&*!|>'\"%@\x60".toList.contains c

/-- A word of a plain scalar, and what remains.  Between brackets a colon directly in front of a
mark is an error. -/
def plainWord? (inFlow : Bool) : List Char → Option (List Char × List Char)
  | [] => some ([], [])
  | c :: cs =>
    if isGap c then some ([], c :: cs)
    else if inFlow && c == ':' && cs.head?.any fun d => d == '?' || isFlowMark d then none
    else if (c == ':' && endsWord cs) || (inFlow && isFlowMark c) then some ([], c :: cs)
    else (plainWord? inFlow cs).map fun (word, rest) => (c :: word, rest)

/-- A plain scalar as it is read. -/
structure PlainText where
  text : List Char
  rest : List Char
  /-- Whether line breaks were passed behind the last word. -/
  endsLine : Bool

/-- The words of a plain scalar, each behind its gap, and what remains.  A line that is indented by
less than `indent`, a comment and a mark of the document end it.  The words begin behind `gap`, in
column 0 if `atMargin`.  Every word but the first takes a character, so `fuel` is the number of
characters. -/
def plainFrom? (inFlow : Bool) (indent : Nat) :
    Nat → List Char → Bool → List Char → Option PlainText
  | 0, _, _, _ => none
  | fuel + 1, gap, atMargin, cs =>
    let finished := some { text := [], rest := cs, endsLine := gap.contains '\n' }
    if (atMargin && beginsDocumentMark cs) || cs.head? == some '#' then finished
    else do
      let (word, rest) ← plainWord? inFlow cs
      if word.isEmpty then finished
      else
        let front := foldedGap gap ++ word
        let next := rest.takeWhile isGap
        if next.isEmpty then some { text := front, rest, endsLine := false }
        else do
          guard !(hasEarlyTab indent none next)
          let rest := rest.drop next.length
          let column := (next.reverse.takeWhile (· != '\n')).length
          if next.contains '\n' && !inFlow && column < indent then
            return { text := front, rest, endsLine := true }
          let more ← plainFrom? inFlow indent fuel next (next.contains '\n' && column == 0) rest
          return { more with text := front ++ more.text }

/-- A plain scalar whose further lines are indented by at least `indent`. -/
def plain? (inFlow : Bool) (indent : Nat) (cs : List Char) : Option PlainText :=
  plainFrom? inFlow indent (cs.length + 1) [] false cs

/-! ## Quoted scalars -/

/-- The character that a letter after a backslash stands for, or how many hexadecimal digits of its
code follow. -/
def escaped? (c : Char) : Option (Char ⊕ Nat) :=
  match c with
  | '0' => some (.inl '\x00')
  | 'a' => some (.inl '\x07')
  | 'b' => some (.inl '\x08')
  | 't' | '\t' => some (.inl '\t')
  | 'n' => some (.inl '\n')
  | 'v' => some (.inl '\x0b')
  | 'f' => some (.inl '\x0c')
  | 'r' => some (.inl '\r')
  | 'e' => some (.inl '\x1b')
  | ' ' | '"' | '/' | '\\' => some (.inl c)
  | 'N' => some (.inl '\x85')
  | '_' => some (.inl '\xa0')
  | 'L' => some (.inl '\u2028')
  | 'P' => some (.inl '\u2029')
  | 'x' => some (.inr 2)
  | 'u' => some (.inr 4)
  | 'U' => some (.inr 8)
  | _ => none

/-- The character that is written after a backslash, and what remains. -/
def escape? : List Char → Option (Char × List Char)
  | c :: rest =>
    match escaped? c with
    | some (.inl c) => some (c, rest)
    | some (.inr digits) => do
      let code ← Numeral.natOfDigits? 16 (rest.take digits)
      guard ((rest.take digits).length == digits && code.isValidChar)
      return (Char.ofNat code, rest.drop digits)
    | none => none
  | [] => none

/-- The gap that begins here inside quotes, as it is written, what it stands for, and what remains.
A gap may begin with an escaped line break, which stands for nothing. -/
def quotedGap? (quote : Char) : List Char → Option (List Char × List Char × List Char)
  | [] => none
  | c :: cs =>
    let gap := (c :: cs).takeWhile isGap
    let escapedGap := cs.takeWhile isGap
    if isGap c then some (gap, foldedGap gap, (c :: cs).drop gap.length)
    else if quote = '"' ∧ c = '\\' ∧ cs.head? = some '\n' then
      some (escapedGap, List.replicate (escapedGap.count '\n' - 1) '\n', cs.drop escapedGap.length)
    else none

/-- The character that is written here inside quotes, or `none` for the closing quote, and what
remains.  The quote is written twice inside single quotes, and escaped inside double quotes. -/
def quotedChar? (quote : Char) : List Char → Option (Option Char × List Char)
  | [] => none
  | c :: cs =>
    if quote = '\'' ∧ c = quote ∧ cs.head? = some quote then some (some c, cs.tail)
    else if c = quote then some (none, cs)
    else if quote = '"' ∧ c = '\\' then (escape? cs).map fun (c, rest) => (some c, rest)
    else some (some c, cs)

/-- The text up to the closing quote, and what remains.  No line may be a mark of the document.
Every step takes a character, so `fuel` is the number of characters. -/
def quotedFrom? (quote : Char) : Nat → List Char → Option (List Char × List Char)
  | 0, _ => none
  | fuel + 1, cs =>
    match quotedGap? quote cs with
    | some (gap, meaning, rest) => do
      guard !(gap.getLast? == some '\n' && beginsDocumentMark rest)
      let (text, rest) ← quotedFrom? quote fuel rest
      return (meaning ++ text, rest)
    | none => do
      let (c, rest) ← quotedChar? quote cs
      match c with
      | none => return ([], rest)
      | some c =>
        let (text, rest) ← quotedFrom? quote fuel rest
        return (c :: text, rest)

/-- The text in quotes from behind the opening quote, and what remains. -/
def quoted? (quote : Char) (cs : List Char) : Option (List Char × List Char) :=
  quotedFrom? quote (cs.length + 1) cs

/-! ## Block scalars -/

/-- What becomes of the line breaks at the end of a block. -/
inductive Chomping where
  | strip
  | clip
  | keep
deriving DecidableEq, Repr

/-- The chomping that a sign asks for. -/
def Chomping.ofSign? : Char → Option Chomping
  | '-' => some .strip
  | '+' => some .keep
  | _ => none

/-- The indentation that a digit asks for. -/
def indentOfDigit? (c : Char) : Option Nat :=
  if c.isDigit then some (c.toNat - '0'.toNat) else none

/-- The chomping and the indentation in the header of a block, in either order, and what remains
from the end of the line.  An indentation of zero is an error. -/
def blockHeader? (cs : List Char) : Option (Chomping × Option Nat × List Char) := do
  let (chomping, indent, rest) :=
    match cs.head?.bind Chomping.ofSign?, cs.head?.bind indentOfDigit? with
    | some chomping, _ =>
      match cs.tail.head?.bind indentOfDigit? with
      | some indent => (chomping, some indent, cs.tail.tail)
      | none => (chomping, none, cs.tail)
    | none, some indent =>
      match cs.tail.head?.bind Chomping.ofSign? with
      | some chomping => (chomping, some indent, cs.tail.tail)
      | none => (.clip, some indent, cs.tail)
    | none, none => (.clip, none, cs)
  guard (indent != some 0)
  return (chomping, indent, ← endOfLine? rest)

/-- The blank lines in front of a line of a block. -/
structure BlankLines where
  count : Nat
  /-- The greatest indentation that was met, the one of the line included. -/
  indent : Nat
  /-- The indentation of the line. -/
  column : Nat
  rest : List Char

/-- The blank lines from here on, and the indentation of the line behind them.  Spaces are passed up
to column `limit`, and no tab may stand before it. -/
def blankLines? (limit : Option Nat) : Nat → List Char → Option BlankLines
  | 0, _ => none
  | fuel + 1, cs => do
    let spaces := (cs.takeWhile (· == ' ')).length
    let column := (limit.map (min spaces)).getD spaces
    let rest := cs.drop column
    guard !(limit.all (column < ·) && rest.head? == some '\t')
    match rest with
    | '\n' :: rest =>
      let more ← blankLines? limit fuel rest
      return { more with count := more.count + 1, indent := max column more.indent }
    | rest => return { count := 0, indent := column, column, rest }

/-- The lines of a block. -/
structure BlockLines where
  /-- Each line, behind the number of blank lines in front of it. -/
  lines : List (Nat × List Char)
  /-- Whether a line break stands behind the last line. -/
  closed : Bool
  /-- The number of blank lines at the end. -/
  trailing : Nat
  rest : List Char

/-- The lines of a block that are indented by `indent`, from blank lines on. -/
def blockLines? (indent : Nat) : Nat → BlankLines → Option BlockLines
  | 0, _ => none
  | fuel + 1, blanks =>
    if blanks.column = indent ∧ blanks.rest ≠ [] then do
      let line := blanks.rest.takeWhile (· != '\n')
      match blanks.rest.drop line.length with
      | [] => return { lines := [(blanks.count, line)], closed := false, trailing := 0, rest := [] }
      | _ :: rest =>
        let next ← blankLines? (some indent) (rest.length + 1) rest
        let more ← blockLines? indent fuel next
        return { more with
          lines := (blanks.count, line) :: more.lines
          closed := more.closed || more.lines.isEmpty }
    else return { lines := [], closed := false, trailing := blanks.count, rest := blanks.rest }

/-- What stands for the break behind a line and the blank lines between it and the next one.  In a
folded block a line that begins with a space keeps the breaks around it. -/
def lineBreaks (style : Style) (before : List Char) (blanks : Nat) (line : List Char) : List Char :=
  if style = .folded ∧ !before.head?.any isSpace ∧ !line.head?.any isSpace then
    foldedBreaks (blanks + 1)
  else List.replicate (blanks + 1) '\n'

/-- The text of the lines behind a line. -/
def linesAfter (style : Style) (before : List Char) : List (Nat × List Char) → List Char
  | [] => []
  | (blanks, line) :: lines =>
    lineBreaks style before blanks line ++ line ++ linesAfter style line lines

/-- The text of a block without its end. -/
def linesText (style : Style) : List (Nat × List Char) → List Char
  | [] => []
  | (blanks, line) :: lines => List.replicate blanks '\n' ++ line ++ linesAfter style line lines

/-- The end of the text of a block. -/
def blockEnd (chomping : Chomping) (block : BlockLines) : List Char :=
  let last := if block.closed then ['\n'] else []
  match chomping with
  | .strip => []
  | .clip => last
  | .keep => last ++ List.replicate block.trailing '\n'

/-- The text of a block from behind its mark, and what remains.  Its lines are indented by what the
header says beyond the block around it, whose contents are indented by `level`; or else by as much
as the first line and the blank lines before it are at most. -/
def block? (style : Style) (level : Nat) (cs : List Char) : Option (List Char × List Char) := do
  let (chomping, indent?, rest) ← blockHeader? cs
  match rest with
  | [] => return ([], [])
  | _ :: rest =>
    let fuel := rest.length + 1
    let limit := indent?.map fun indent => level - 1 + indent
    let blanks ← blankLines? limit fuel rest
    let indent := limit.getD (max (max blanks.indent level) 1)
    let block ← blockLines? indent fuel blanks
    return (linesText style block.lines ++ blockEnd chomping block, block.rest)

end Yaml
end CryptoUsage
