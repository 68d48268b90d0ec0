import CryptoUsage.Config.Yaml.Lexer

/-!
# Nodes

The tokens of a text describe one document, and a document is a node: a scalar, a sequence, a
mapping, or an alias for a node elsewhere.  A node that is left out is an empty plain scalar.

Readers take the tokens that are left and give back what they read and what remains.

## What is here

* Directives.  A version and the stems of tag handles may stand in front of a document, each at
  most once (`directives?`).
* Content.  A node has an anchor and a tag in either order (`properties`), and then what it is.
  Which collections it may be depends on where it stands (`Position`): a sequence that is not
  indented may stand only as the value of a member.  `content?` reads a node, `optional?` one that
  may be left out in front of certain tokens, and `items?`, `members?`, `flowItems?` and
  `flowMembers?` read the insides of the four kinds of collections.  In a flow sequence a single
  member needs no braces (`single?`).
* Documents.  Without its mark a document has no directives and is not left out (`document?`), and
  behind the first document no other one may follow (`ofTokens?`).

The readers of collections call each other for a number of steps that is taken from the number of
tokens.
-/

set_option autoImplicit false

namespace CryptoUsage
namespace Yaml

/-- A scalar with its tag. -/
structure Scalar where
  style : Style
  text : String
  tag : Option Octets := none
deriving DecidableEq, Repr

/-- The scalar that stands for a node that is left out. -/
def Scalar.empty : Scalar := { style := .plain, text := "" }

/-- A node, with its anchor if it has one.  The tags of collections have been checked and are of no
further use. -/
inductive Node where
  /-- An alias. -/
  | reference (name : String)
  | scalar (anchor : Option String) (scalar : Scalar)
  | sequence (anchor : Option String) (items : List Node)
  | mapping (anchor : Option String) (members : List (Node × Node))

namespace Node

/-- A node that is left out. -/
def empty : Node := scalar none .empty

/-! ## Directives -/

/-- What the directives in front of a document say. -/
structure Directives where
  hasVersion : Bool := false
  handles : TagHandles := []

/-- The directives in front of a document, after those before, and what remains.  There is at most
one version, which is 1.1 or 1.2, and at most one stem for a handle. -/
def directives? (before : Directives) : List Token → Option (Directives × List Token)
  | .version major minor :: tokens => do
    guard (!before.hasVersion && major == 1 && (minor == 1 || minor == 2))
    directives? { before with hasVersion := true } tokens
  | .handle name stem :: tokens => do
    guard (before.handles.lookup name).isNone
    directives? { before with handles := (name, stem) :: before.handles } tokens
  | tokens => some (before, tokens)

/-! ## Content -/

/-- A node that is left out behind its anchor or tag, and what remains. -/
def omitted? (anchor : Option String) (tag : Option Octets) (tokens : List Token) :
    Option (Node × List Token) :=
  if anchor.isSome || tag.isSome then
    some (scalar anchor { Scalar.empty with tag }, tokens)
  else none

/-- The anchor and the tag in front of a node, in either order, and what remains. -/
def properties : List Token → Option String × Option TagText × List Token
  | .anchor name :: .tag text :: tokens => (some name, some text, tokens)
  | .anchor name :: tokens => (some name, none, tokens)
  | .tag text :: .anchor name :: tokens => (some name, some text, tokens)
  | .tag text :: tokens => (none, some text, tokens)
  | tokens => (none, none, tokens)

/-- Where a node stands, which decides what collections it may be. -/
inductive Position where
  /-- Between brackets. -/
  | inFlow
  /-- An item or a document in a block. -/
  | inBlock
  /-- In a mapping in a block, where the items of a sequence need not be indented. -/
  | inMapping
deriving DecidableEq, Repr

/-- Whether a token ends a member of a mapping in a block, or a part of one. -/
def endsMember : Token → Bool
  | .key | .value | .blockEnd => true
  | _ => false

/-- Whether a token ends an item of a sequence in a block. -/
def endsItem : Token → Bool
  | .blockEntry | .blockEnd => true
  | _ => false

/-- What remains behind the comma in front of an item or member, which the first one does not have.
-/
def afterComma? (first : Bool) : List Token → Option (List Token)
  | .flowEntry :: tokens => if first then some (.flowEntry :: tokens) else some tokens
  | tokens => if first then some tokens else none

mutual

/-- A node, and what remains. -/
def content? (handles : TagHandles) (position : Position) :
    Nat → List Token → Option (Node × List Token)
  | 0, _ => none
  | _ + 1, .reference name :: tokens => some (reference name, tokens)
  | fuel + 1, tokens => do
    let (anchor, text, tokens) := properties tokens
    let tag ← text.mapM (TagText.resolve? handles)
    match tokens with
    | .scalar style text :: rest => return (scalar anchor { style, text, tag }, rest)
    | .flowSequenceStart :: rest =>
      let (items, rest) ← flowItems? handles true fuel rest
      return (sequence anchor items, rest)
    | .flowMappingStart :: rest =>
      let (members, rest) ← flowMembers? handles true fuel rest
      return (mapping anchor members, rest)
    | .blockSequenceStart :: rest =>
      if position = .inFlow then omitted? anchor tag tokens
      else
        let (items, rest) ← items? handles fuel rest
        return (sequence anchor items, rest)
    | .blockMappingStart :: rest =>
      if position = .inFlow then omitted? anchor tag tokens
      else
        let (members, rest) ← members? handles fuel rest
        return (mapping anchor members, rest)
    | .blockEntry :: _ =>
      if position = .inMapping then
        let (items, rest) ← looseItems? handles fuel tokens
        return (sequence anchor items, rest)
      else omitted? anchor tag tokens
    | _ => omitted? anchor tag tokens

/-- A node that is left out in front of some tokens, and what remains. -/
def optional? (handles : TagHandles) (position : Position) (ends : Token → Bool) :
    Nat → List Token → Option (Node × List Token)
  | 0, _ => none
  | fuel + 1, tokens =>
    if tokens.head?.any ends then some (empty, tokens) else content? handles position fuel tokens

/-- The value behind a name, which is left out if there is no colon, and what remains. -/
def valueOf? (handles : TagHandles) (position : Position) (ends : Token → Bool) :
    Nat → List Token → Option (Node × List Token)
  | 0, _ => none
  | fuel + 1, .value :: tokens => optional? handles position ends fuel tokens
  | _ + 1, tokens => some (empty, tokens)

/-- The items of a sequence in a block up to its end, and what remains. -/
def items? (handles : TagHandles) : Nat → List Token → Option (List Node × List Token)
  | 0, _ => none
  | fuel + 1, .blockEntry :: tokens => do
    let (item, tokens) ← optional? handles .inBlock endsItem fuel tokens
    let (items, tokens) ← items? handles fuel tokens
    return (item :: items, tokens)
  | _ + 1, .blockEnd :: tokens => some ([], tokens)
  | _ + 1, _ => none

/-- The items of a sequence that are not indented, and what remains. -/
def looseItems? (handles : TagHandles) : Nat → List Token → Option (List Node × List Token)
  | 0, _ => none
  | fuel + 1, .blockEntry :: tokens => do
    let (item, tokens) ←
      optional? handles .inBlock (fun token => endsItem token || endsMember token) fuel tokens
    let (items, tokens) ← looseItems? handles fuel tokens
    return (item :: items, tokens)
  | _ + 1, tokens => some ([], tokens)

/-- The members of a mapping in a block up to its end, and what remains. -/
def members? (handles : TagHandles) : Nat → List Token → Option (List (Node × Node) × List Token)
  | 0, _ => none
  | fuel + 1, .key :: tokens => do
    let (name, tokens) ← optional? handles .inMapping endsMember fuel tokens
    let (value, tokens) ← valueOf? handles .inMapping endsMember fuel tokens
    let (members, tokens) ← members? handles fuel tokens
    return ((name, value) :: members, tokens)
  | _ + 1, .blockEnd :: tokens => some ([], tokens)
  | _ + 1, _ => none

/-- The items of a sequence between brackets up to the closing one, and what remains. -/
def flowItems? (handles : TagHandles) (first : Bool) :
    Nat → List Token → Option (List Node × List Token)
  | 0, _ => none
  | _ + 1, .flowSequenceEnd :: tokens => some ([], tokens)
  | fuel + 1, tokens => do
    match ← afterComma? first tokens with
    | .flowSequenceEnd :: tokens => return ([], tokens)
    | .key :: tokens =>
      let (item, tokens) ← single? handles fuel tokens
      let (items, tokens) ← flowItems? handles false fuel tokens
      return (item :: items, tokens)
    | tokens =>
      let (item, tokens) ← content? handles .inFlow fuel tokens
      let (items, tokens) ← flowItems? handles false fuel tokens
      return (item :: items, tokens)

/-- An item that is a single member without braces, and what remains.  If its name is left out, so
is the token that shows it. -/
def single? (handles : TagHandles) : Nat → List Token → Option (Node × List Token)
  | 0, _ => none
  | fuel + 1, tokens => do
    let (name, tokens) ←
      match tokens with
      | .value :: tokens => some (empty, tokens)
      | .flowEntry :: tokens => some (empty, tokens)
      | .flowSequenceEnd :: tokens => some (empty, tokens)
      | tokens => content? handles .inFlow fuel tokens
    let (value, tokens) ←
      valueOf? handles .inFlow (fun token => token == .flowEntry || token == .flowSequenceEnd)
        fuel tokens
    return (mapping none [(name, value)], tokens)

/-- The members of a mapping between brackets up to the closing one, and what remains.  A name may
stand without a value. -/
def flowMembers? (handles : TagHandles) (first : Bool) :
    Nat → List Token → Option (List (Node × Node) × List Token)
  | 0, _ => none
  | _ + 1, .flowMappingEnd :: tokens => some ([], tokens)
  | fuel + 1, tokens => do
    match ← afterComma? first tokens with
    | .flowMappingEnd :: tokens => return ([], tokens)
    | .key :: tokens =>
      let (name, tokens) ←
        optional? handles .inFlow
          (fun token => token == .value || token == .flowEntry || token == .flowMappingEnd)
          fuel tokens
      let (value, tokens) ←
        valueOf? handles .inFlow (fun token => token == .flowEntry || token == .flowMappingEnd)
          fuel tokens
      let (members, tokens) ← flowMembers? handles false fuel tokens
      return ((name, value) :: members, tokens)
    | tokens =>
      let (name, tokens) ← content? handles .inFlow fuel tokens
      let (members, tokens) ← flowMembers? handles false fuel tokens
      return ((name, empty) :: members, tokens)

end

/-! ## Documents -/

/-- Whether a document without content ends in front of these tokens. -/
def isAtEnd : List Token → Bool
  | [] | .version .. :: _ | .handle .. :: _ | .documentStart :: _ | .documentEnd :: _ => true
  | _ => false

/-- A document, and what remains.  Only behind its mark may it be left out, and only there may
directives stand.  Readers call each other at most three times before they take a token, which
bounds the fuel. -/
def document? (tokens : List Token) : Option (Node × List Token) :=
  let fuel := 4 * tokens.length + 4
  match tokens with
  | .version .. :: _ | .handle .. :: _ | .documentStart :: _ => do
    let (directives, tokens) ← directives? {} tokens
    guard (tokens.head? == some .documentStart)
    if isAtEnd tokens.tail then return (empty, tokens.tail)
    content? (directives.handles ++ standardHandles) .inBlock fuel tokens.tail
  | tokens => content? standardHandles .inBlock fuel tokens

/-- The node that the tokens of a text describe, which is left out if there are none.  Behind it
there may be marks of its end and nothing else. -/
def ofTokens? (tokens : List Token) : Option Node :=
  if tokens.isEmpty then some empty
  else do
    let (node, tokens) ← document? tokens
    guard (tokens.all (· == .documentEnd))
    return node

end Node
end Yaml
end CryptoUsage
