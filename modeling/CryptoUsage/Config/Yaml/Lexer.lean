import CryptoUsage.Config.Yaml.Token

/-!
# The tokens of a text

The tokens are found from left to right.  Two things make a token depend on what came before it.

Block collections are told by their indentation.  The columns of those that are open are kept, and
a token to the left of a column closes the collection in it.

A name is not known to be one before its colon.  So the place where a name may have begun is kept
as a *candidate*, one for the block and one for every open bracket, and the colon puts the token
for the start of a name in front of it.  A name ends on its own line and within 1024 bytes.

## What is here

`Lexer` is the state between two tokens: the place in the text, the tokens found so far, the
columns of the open block collections, the candidates, and whether a name may begin here.

* Between tokens.  Spaces, comments and line breaks are passed over (`toNextToken`).
* Candidates are set, dropped when their names would be over, and required where only a name can
  stand.
* Block collections are opened in a column and closed from the innermost one on (`closeWhile`).
* Tokens.  There is one function for each kind of token, and `token?` picks it by the first
  character and by what may stand there; `run` finds all of them.
-/

set_option autoImplicit false

namespace CryptoUsage
namespace Yaml

/-- A place where the name of a member may have begun. -/
structure Candidate where
  /-- The number of tokens in front of it. -/
  index : Nat
  place : Cursor
  /-- Whether nothing but a name can stand there. -/
  required : Bool

/-- Whether a name that began there would have ended before the given place. -/
def Candidate.isOver (candidate : Candidate) (place : Cursor) : Bool :=
  candidate.place.line < place.line || candidate.place.offset + 1024 < place.offset

/-- What is known when some of the tokens have been found. -/
structure Lexer where
  place : Cursor
  tokens : Array Token := #[]
  /-- The columns of the open block collections, the innermost first. -/
  columns : List Nat := []
  /-- Whether a name or a block collection may begin at the next token. -/
  mayBegin : Bool := true
  candidate : Option Candidate := none
  /-- The candidates around the open brackets, the innermost first. -/
  outer : List (Option Candidate) := []

namespace Lexer

/-- Whether a bracket is open. -/
def inFlow (lexer : Lexer) : Bool := !lexer.outer.isEmpty

/-- The least column in which the contents of the innermost block collection may stand. -/
def level (lexer : Lexer) : Nat := (lexer.columns.head?.map (· + 1)).getD 0

/-- Finds a token that ends where `rest` remains. -/
def emit (lexer : Lexer) (token : Token) (rest : List Char) : Lexer :=
  { lexer with tokens := lexer.tokens.push token, place := lexer.place.moveTo rest }

/-- Finds a token of a number of characters. -/
def mark (lexer : Lexer) (token : Token) (length : Nat) : Lexer :=
  { lexer with tokens := lexer.tokens.push token, place := lexer.place.skip length }

/-! ## Between tokens -/

/-- Passes over spaces, comments and line breaks.  Outside brackets a tab is no space where a name
may begin.  A byte order mark may stand at the start of a line. -/
def toNextToken : Nat → Lexer → Lexer
  | 0, lexer => lexer
  | fuel + 1, lexer =>
    match lexer.place.rest with
    | [] => lexer
    | c :: cs =>
      if c = ' ' ∨ (c = '\t' ∧ (lexer.inFlow ∨ !lexer.mayBegin)) ∨
          (c = '\uFEFF' ∧ lexer.place.column = 0) then
        toNextToken fuel { lexer with place := lexer.place.next }
      else if c = '\n' then
        toNextToken fuel { lexer with
          place := lexer.place.next
          mayBegin := lexer.mayBegin || !lexer.inFlow }
      else if c = '#' then
        toNextToken fuel { lexer with place := lexer.place.moveTo (cs.dropWhile (· != '\n')) }
      else lexer

/-! ## Candidates -/

/-- Gives up the candidate.  It is an error if only a name could have stood there. -/
def dropCandidate? (lexer : Lexer) : Option Lexer := do
  guard !(lexer.candidate.any Candidate.required)
  return { lexer with candidate := none }

/-- Makes the next token the candidate, if a name may begin there. -/
def setCandidate? (lexer : Lexer) : Option Lexer :=
  if lexer.mayBegin then
    lexer.dropCandidate?.map fun lexer =>
      { lexer with candidate := some {
          index := lexer.tokens.size
          place := lexer.place
          required := !lexer.inFlow && lexer.columns.head? == some lexer.place.column } }
  else some lexer

/-- Gives up the candidates whose names would be over. -/
def dropPast? (lexer : Lexer) : Option Lexer := do
  let isPast (candidate : Option Candidate) := candidate.any (·.isOver lexer.place)
  guard ((lexer.candidate :: lexer.outer).all fun candidate =>
    !(isPast candidate && candidate.any Candidate.required))
  let keep (candidate : Option Candidate) := if isPast candidate then none else candidate
  return { lexer with candidate := keep lexer.candidate, outer := lexer.outer.map keep }

/-! ## Block collections -/

/-- Closes the block collections that satisfy a condition on their columns, from the innermost one
on. -/
def closeWhile (lexer : Lexer) (p : Nat → Bool) : Lexer :=
  if lexer.inFlow then lexer
  else
    let (closed, columns) := lexer.columns.span p
    { lexer with columns, tokens := lexer.tokens ++ (closed.map fun _ => Token.blockEnd).toArray }

/-- Closes all block collections. -/
def closeAll (lexer : Lexer) : Lexer := lexer.closeWhile fun _ => true

/-- Opens a block collection in a column, unless it is open there already.  Its start stands behind
the first `index` tokens. -/
def openBlock (lexer : Lexer) (column index : Nat) (start : Token) : Lexer :=
  if !lexer.inFlow && lexer.level ≤ column then
    { lexer with
      columns := column :: lexer.columns
      tokens := lexer.tokens.insertIdxIfInBounds index start }
  else lexer

/-! ## Tokens -/

/-- A directive or a mark of the document, given what it is made of. -/
def outside? (lexer : Lexer) (token : Token) (rest : List Char) : Option Lexer :=
  lexer.closeAll.dropCandidate?.map fun lexer =>
    { lexer.emit token rest with mayBegin := false }

/-- An opening bracket. -/
def openFlow? (lexer : Lexer) (token : Token) : Option Lexer :=
  lexer.setCandidate?.map fun lexer =>
    { lexer.mark token 1 with
      candidate := none
      outer := lexer.candidate :: lexer.outer
      mayBegin := true }

/-- A closing bracket. -/
def closeFlow? (lexer : Lexer) (token : Token) : Option Lexer :=
  lexer.dropCandidate?.map fun lexer =>
    { lexer.mark token 1 with
      candidate := lexer.outer.head?.getD lexer.candidate
      outer := lexer.outer.tail
      mayBegin := false }

/-- The comma between items. -/
def flowEntry? (lexer : Lexer) : Option Lexer :=
  lexer.dropCandidate?.map fun lexer => { lexer.mark .flowEntry 1 with mayBegin := true }

/-- The dash in front of an item. -/
def blockEntry? (lexer : Lexer) : Option Lexer := do
  guard (lexer.inFlow || lexer.mayBegin)
  let lexer := lexer.openBlock lexer.place.column lexer.tokens.size .blockSequenceStart
  let lexer ← lexer.dropCandidate?
  return { lexer.mark .blockEntry 1 with mayBegin := true }

/-- The question mark in front of a name. -/
def key? (lexer : Lexer) : Option Lexer := do
  guard (lexer.inFlow || lexer.mayBegin)
  let lexer := lexer.openBlock lexer.place.column lexer.tokens.size .blockMappingStart
  let lexer ← lexer.dropCandidate?
  return { lexer.mark .key 1 with mayBegin := !lexer.inFlow }

/-- The colon behind a name. -/
def value? (lexer : Lexer) : Option Lexer :=
  match lexer.candidate with
  | some candidate =>
    let lexer := { lexer with
      tokens := lexer.tokens.insertIdxIfInBounds candidate.index .key
      candidate := none
      mayBegin := false }
    some ((lexer.openBlock candidate.place.column candidate.index .blockMappingStart).mark .value 1)
  | none => do
    guard (lexer.inFlow || lexer.mayBegin)
    let lexer := lexer.openBlock lexer.place.column lexer.tokens.size .blockMappingStart
    return { lexer.mark .value 1 with mayBegin := !lexer.inFlow }

/-- A token with which a name may begin, given what it is made of. -/
def content? (lexer : Lexer) (token : Option (Token × List Char)) : Option Lexer := do
  let lexer ← lexer.setCandidate?
  let (token, rest) ← token
  return { lexer.emit token rest with mayBegin := false }

/-- A tag.  Between brackets a comma may follow it. -/
def tag? (lexer : Lexer) (cs : List Char) : Option Lexer :=
  lexer.content? do
    let (tag, rest) ← Yaml.tag? cs
    guard (endsWord rest || (lexer.inFlow && rest.head? == some ','))
    return (.tag tag, rest)

/-- A block scalar from behind its mark. -/
def blockScalar? (lexer : Lexer) (style : Style) (cs : List Char) : Option Lexer := do
  let lexer ← lexer.dropCandidate?
  let (text, rest) ← block? style lexer.level cs
  return { lexer.emit (.scalar style (String.ofList text)) rest with mayBegin := true }

/-- A plain scalar.  If it ends with its line, a name may begin behind it. -/
def plainScalar? (lexer : Lexer) : Option Lexer := do
  guard (beginsPlain lexer.inFlow lexer.place.rest)
  let lexer ← lexer.setCandidate?
  let { text, rest, endsLine } ← plain? lexer.inFlow lexer.level lexer.place.rest
  return { lexer.emit (.scalar .plain (String.ofList text)) rest with mayBegin := endsLine }

/-- The tokens up to and with the one that begins here with a given character. -/
def token? (lexer : Lexer) (c : Char) (cs : List Char) : Option Lexer :=
  if lexer.place.column = 0 ∧ c = '%' then do
    let (token, rest) ← directive? cs
    lexer.outside? token rest
  else if lexer.place.column = 0 ∧ beginsMark '-' (c :: cs) then
    lexer.outside? .documentStart (cs.drop 2)
  else if lexer.place.column = 0 ∧ beginsMark '.' (c :: cs) then
    lexer.outside? .documentEnd (cs.drop 2)
  else
    match c with
    | '[' => lexer.openFlow? .flowSequenceStart
    | '\x7b' => lexer.openFlow? .flowMappingStart
    | ']' => lexer.closeFlow? .flowSequenceEnd
    | '\x7d' => lexer.closeFlow? .flowMappingEnd
    | ',' => lexer.flowEntry?
    | '-' => if endsWord cs then lexer.blockEntry? else lexer.plainScalar?
    | '?' => if lexer.inFlow || endsWord cs then lexer.key? else lexer.plainScalar?
    | ':' => if lexer.inFlow || endsWord cs then lexer.value? else lexer.plainScalar?
    | '*' => lexer.content? ((anchorName? cs).map fun (name, rest) => (.reference name, rest))
    | '&' => lexer.content? ((anchorName? cs).map fun (name, rest) => (.anchor name, rest))
    | '!' => lexer.tag? cs
    | '|' => if lexer.inFlow then none else lexer.blockScalar? .literal cs
    | '>' => if lexer.inFlow then none else lexer.blockScalar? .folded cs
    | '\'' | '"' =>
      lexer.content? ((quoted? c cs).map fun (text, rest) =>
        (.scalar .quoted (String.ofList text), rest))
    | _ => lexer.plainScalar?

/-- All tokens.  Every step but the last takes a character, so `fuel` is one more than the number of
characters. -/
def run : Nat → Lexer → Option (Array Token)
  | 0, _ => none
  | fuel + 1, lexer => do
    let lexer ← (lexer.toNextToken (lexer.place.rest.length + 1)).dropPast?
    let lexer := lexer.closeWhile (lexer.place.column < ·)
    match lexer.place.rest with
    | [] => lexer.closeAll.dropCandidate?.map (·.tokens)
    | c :: cs => run fuel (← lexer.token? c cs)

end Lexer

/-- The tokens of a text. -/
def tokens? (cs : List Char) : Option (List Token) :=
  (Lexer.run (cs.length + 1) { place := { rest := cs } }).map Array.toList

end Yaml
end CryptoUsage
