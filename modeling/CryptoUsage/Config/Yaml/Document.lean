import CryptoUsage.Config.Document
import CryptoUsage.Config.Yaml.Node

/-!
# The document of a text

A node becomes a document once it is known what its aliases stand for.

Anchors are numbered, and an alias stands for the last node with the number that its name has at
that point.  The number of an anchor is the number of names in use when it is met, its own
included if it is in use already.  So different names have different numbers until one is used
again; from then on a new name may take over the number of an old one.

## What is here

* Anchors.  `Anchors` holds the numbers of the names in use and the scalar that each number stands
  for.  `anchors?` and its companions go through a node in the order in which it is written, and
  refuse an alias for a name that is not in use.
* Values.  Which numeral a plain text is (`natural?`), which truth value it names (`truth?`), and
  whether a scalar may be of a kind, which depends on how it is written and on its tag
  (`Scalar.mayBe`).
* Documents.  `settings?` looks up the name of every member, which must be a scalar, and its
  value; `toDocument?` tells a table from a list, of which nothing is kept, from a scalar and from
  nothing.  `document?` is the reader of a text from its characters on: it goes through tokens,
  nodes and anchors.
-/

set_option autoImplicit false

namespace CryptoUsage
namespace Yaml

/-! ## Anchors -/

/-- The anchors that have been met. -/
structure Anchors where
  /-- The names in use, with their numbers. -/
  numbers : List (String × Nat) := []
  /-- The nodes with a number, the latest first.  Of a collection only its presence is kept. -/
  nodes : List (Nat × Option Scalar) := []

namespace Anchors

/-- The anchors after a node, which has an anchor if there is a name. -/
def set (anchors : Anchors) (name : Option String) (node : Option Scalar) : Anchors :=
  match name with
  | none => anchors
  | some name =>
    let number := anchors.numbers.length
    { numbers := (name, number) :: anchors.numbers.filter (·.1 != name)
      nodes := (number, node) :: anchors.nodes }

/-- The scalar with a number. -/
def scalar? (anchors : Anchors) (number : Nat) : Option Scalar :=
  (anchors.nodes.lookup number).join

end Anchors

namespace Node

mutual

/-- The anchors after a node.  An alias for a name that is not in use is an error. -/
def anchors? (anchors : Anchors) : Node → Option Anchors
  | reference name => if (anchors.numbers.lookup name).isSome then some anchors else none
  | scalar anchor value => some (anchors.set anchor (some value))
  | sequence anchor items => anchorsOfItems? (anchors.set anchor none) items
  | mapping anchor members => anchorsOfMembers? (anchors.set anchor none) members

/-- The anchors after the items of a sequence. -/
def anchorsOfItems? (anchors : Anchors) : List Node → Option Anchors
  | [] => some anchors
  | item :: items => do anchorsOfItems? (← anchors? anchors item) items

/-- The anchors after the members of a mapping. -/
def anchorsOfMembers? (anchors : Anchors) : List (Node × Node) → Option Anchors
  | [] => some anchors
  | (name, value) :: members => do
    anchorsOfMembers? (← anchors? (← anchors? anchors name) value) members

end

/-! ## Values -/

/-- The scalar that a node is or stands for, given the anchors before it and those of the whole
text. -/
def scalar? (before all : Anchors) : Node → Option Scalar
  | reference name => (before.numbers.lookup name).bind all.scalar?
  | scalar _ value => some value
  | _ => none

end Node

/-- The natural number that a text is a numeral for: after an optional sign, hexadecimal, octal,
binary or decimal digits, the last without superfluous zeros. -/
def natural? (cs : List Char) : Option Nat :=
  let digits := if cs.head? = some '+' then cs.tail else cs
  match digits with
  | '0' :: 'x' :: ds => Numeral.natOfDigits? 16 ds
  | '0' :: 'o' :: ds => Numeral.natOfDigits? 8 ds
  | '0' :: 'b' :: ds => Numeral.natOfDigits? 2 ds
  | '0' :: _ :: _ => none
  | ds => Numeral.natOfDigits? 10 ds

/-- The truth value that a text names. -/
def truth? : String → Option Bool
  | "true" | "True" | "TRUE" => some true
  | "false" | "False" | "FALSE" => some false
  | _ => none

/-- Whether a scalar may be a value of a kind: it is plain, or a literal block whose tag says so. -/
def Scalar.mayBe (scalar : Scalar) (kind : Kind) : Bool :=
  scalar.style == .plain || (scalar.style == .literal && scalar.tag == some kind.tag)

/-- The value of the setting that a scalar is for. -/
def Scalar.value (scalar : Scalar) : SettingValue :=
  match natural? scalar.text.toList, truth? scalar.text with
  | some n, _ => if scalar.mayBe .int then .ofNumeral n else .other
  | none, some b => if scalar.mayBe .bool then .truth b else .other
  | none, none => .other

/-! ## Documents -/

namespace Node

/-- The settings that the members of a mapping make, given the anchors before them and those of the
whole text.  Every name is a scalar. -/
def settings? (before all : Anchors) :
    List (Node × Node) → Option (List (String × SettingValue))
  | [] => some []
  | (name, value) :: members => do
    let scalar ← scalar? before all name
    let between ← anchors? before name
    let after ← anchors? between value
    let value := ((scalar? between all value).map Scalar.value).getD .other
    return (scalar.text, value) :: (← settings? after all members)

/-- The document that a node stands for. -/
def toDocument? : Node → Option Document
  | reference _ => none
  | scalar _ value => some (if value.style = .plain ∧ value.text = "" then .absent else .single)
  | sequence anchor items => do
    let _ ← anchors? {} (sequence anchor items)
    return .list []
  | mapping anchor members => do
    let all ← anchors? {} (mapping anchor members)
    return .table (← settings? (Anchors.set {} anchor none) all members)

end Node

/-- The document that a text holds. -/
def document? (text : String) : Option Document := do
  let cs := normalized text.toList
  guard (cs.all isPrintable)
  (← Node.ofTokens? (← tokens? cs)).toDocument?

end Yaml
end CryptoUsage
