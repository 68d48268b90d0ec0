import CryptoUsage.Program.Constant
import CryptoUsage.Program.ObjectType
import CryptoUsage.Syntax.Tree

/-!
# Detected values

What a detection reports: a value of some kind, perhaps with a unit, and the place it was read
from.  Values are made from constants by *value factories* and from matched calls by *action
factories*.

## What is here

* `DetectedValue` with its kind and unit, its text in reports (`display`), its document
  (`toJson`), and the number that can be read back from it (`asInt?`).  A number is held as its
  decimal numeral, with the unit beside it.
* `ValueFactory` is the interface for those who write rules: the kind of constants that it
  expects, whether it asks for sizes, and what it makes of a constant at a location, if anything.
  It is a record of functions, so that a rule may bring any factory at all; what is proved of
  scans holds for each of them.
* The factories that come with the library: sizes that are not negative in bits or bytes, names
  that are not empty, and names listed for given constants.
* `ActionFactory` is the same for actions: what is made of the method name, the object type and
  the location of a call.  `fixed` and `methodName` come with the library, where a constructor
  goes by the simple name of its type.

Factories are compared by where they stand in the rules and never by what they do.
-/

set_option autoImplicit false

namespace CryptoUsage

/-- What a detected value is a value of. -/
inductive ValueKind where
  | algorithm
  | mode
  | padding
  | curve
  | operationMode
  | keySize
  | macSize
  | blockSize
  | digestSize
  | saltSize
  | iterationCount
  | action
deriving DecidableEq, Repr

/-- The name of a value kind in reports. -/
def ValueKind.name : ValueKind → String
  | algorithm => "algorithm"
  | mode => "mode"
  | padding => "padding"
  | curve => "curve"
  | operationMode => "operation_mode"
  | keySize => "key_size"
  | macSize => "mac_size"
  | blockSize => "block_size"
  | digestSize => "digest_size"
  | saltSize => "salt_size"
  | iterationCount => "iteration_count"
  | action => "action"

/-- What a size is counted in. -/
inductive SizeUnit where
  | bit
  | byte
deriving DecidableEq, Repr

namespace SizeUnit

/-- The name of a unit in reports. -/
def name : SizeUnit → String
  | bit => "bit"
  | byte => "byte"

/-- The unit after a number. -/
def plural : SizeUnit → String
  | bit => "bits"
  | byte => "bytes"

end SizeUnit

/-- The document for a location. -/
def Location.toJson (location : Location) : Json :=
  .obj [("line", .num location.line), ("column", .num location.column),
    ("start_byte", .num location.startByte), ("end_byte", .num location.endByte)]

/-- A value that was detected. -/
structure DetectedValue where
  kind : ValueKind
  value : String
  unit : Option SizeUnit := none
  location : Location
deriving DecidableEq, Repr

namespace DetectedValue

/-- A size with its unit. -/
def sized (kind : ValueKind) (size : Int64) (unit : SizeUnit) (location : Location) :
    DetectedValue :=
  { kind, value := Numeral.decimal size, unit := some unit, location }

/-- The value as a number, if it is the numeral of one. -/
def asInt? (v : DetectedValue) : Option Int64 := Numeral.word? v.value

/-- The value as text, with its unit. -/
def display (v : DetectedValue) : String :=
  match v.unit with
  | some unit => v.value ++ " " ++ unit.plural
  | none => v.value

/-- The value in a report. -/
def toJson (v : DetectedValue) : Json :=
  .obj [("kind", .str v.kind.name), ("value", .str v.value),
    ("unit", Json.ofOption (fun unit => .str unit.name) v.unit), ("location", v.location.toJson)]

end DetectedValue

/-- How constants become detected values.  Whoever writes a rule may bring a factory of their own:
nothing is known of it but what it answers. -/
structure ValueFactory where
  /-- What constants are cast to before the factory sees them. -/
  expected : ConstantKind
  /-- Whether the factory wants sizes; then the size of an array counts as one. -/
  isSize : Bool := false
  /-- The value for a constant read at a location, if the factory accepts it. -/
  create? : Constant → Location → Option DetectedValue

namespace ValueFactory

/-- Accepts sizes that are not negative. -/
def size (kind : ValueKind) (unit : SizeUnit) : ValueFactory where
  expected := .int
  isSize := true
  create? c location :=
    match c with
    | .int n => if 0 ≤ n then some (.sized kind n unit location) else none
    | _ => none

/-- Accepts names that are not empty. -/
def name (kind : ValueKind) : ValueFactory where
  expected := .str
  create? c location :=
    match c with
    | .str s => if s.isEmpty then none else some { kind, value := s, location }
    | _ => none

/-- Gives the name that is listed for a constant. -/
def operationMode (modes : List (Constant × String)) : ValueFactory where
  expected := .any
  create? c location :=
    (modes.find? fun (key, _) => c.cast? key.kind == some key).map fun (_, mode) =>
      { kind := .operationMode, value := mode, location }

/-- Key sizes in bits. -/
def keyBits : ValueFactory := size .keySize .bit

/-- Key sizes in bytes. -/
def keyBytes : ValueFactory := size .keySize .byte

/-- Sizes of authentication codes in bits. -/
def macBits : ValueFactory := size .macSize .bit

/-- Names of algorithms. -/
def algorithm : ValueFactory := name .algorithm

end ValueFactory

/-- The method name of constructors. -/
def constructorName : String := "<init>"

/-- How a matched call becomes the action of a detection.  Like value factories, these are open to
whoever writes rules. -/
structure ActionFactory where
  /-- The action for a call of a method, perhaps of an object of a known type, at a location. -/
  create? : String → Option ObjectType → Location → Option DetectedValue

namespace ActionFactory

/-- Always the same action. -/
def fixed (name : String) : ActionFactory where
  create? _ _ location := some { kind := .action, value := name, location }

/-- The name of the method; of a constructor, the simple name of its type. -/
def methodName : ActionFactory where
  create? method objectType location :=
    if method = constructorName then
      objectType.map fun type => { kind := .action, value := type.simpleName, location }
    else some { kind := .action, value := method, location }

end ActionFactory

end CryptoUsage
