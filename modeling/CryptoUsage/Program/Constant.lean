import CryptoUsage.Numeral
import CryptoUsage.Program.Json
import CryptoUsage.Text.Blank
import CryptoUsage.Text.CaseMapping

/-!
# Constants

Following an argument back through a unit ends at constants: numbers, texts and truth values.
What waits for the constant names the kind it expects, and `Constant.cast?` converts where that
loses nothing: a text is a number only if it is the numeral of one, and a number is never a truth
value.

On the way back, members are selected on the value that is looked for (`x.trim().toUpperCase()`).
Their names are collected as they are met, which is outermost first, so `Constant.selectAll?`
applies them from the last to the first.

## What is here

* `Constant`, its kind, and the ways to look at it: as a text (`display`), as a number or a text
  if it is one, and in a report.
* `cast?` makes a constant of the wanted kind.  A number becomes the text of its decimal numeral,
  and a text a number if it is a numeral between blank margins; texts that name truth values
  become these.
* `select?` has the members whose effect on a constant is known, such as those that trim a text or
  change its case.  Any other selection has no value.
-/

set_option autoImplicit false

namespace CryptoUsage

/-- A value that can be read off a syntax tree. -/
inductive Constant where
  | int (n : Int64)
  | str (s : String)
  | bool (b : Bool)
deriving DecidableEq, Repr

/-- What a constant is wanted as. -/
inductive ConstantKind where
  | int
  | str
  | bool
  /-- Whatever it is. -/
  | any
deriving DecidableEq, Repr

namespace Constant

/-- The kind a constant has of itself. -/
def kind : Constant → ConstantKind
  | int _ => .int
  | str _ => .str
  | bool _ => .bool

/-- A constant as a text. -/
def display : Constant → String
  | int n => Numeral.decimal n
  | str s => s
  | bool b => if b then "true" else "false"

/-- The number, if the constant is one. -/
def asInt? : Constant → Option Int64
  | int n => some n
  | _ => none

/-- The text, if the constant is one. -/
def asStr? : Constant → Option String
  | str s => some s
  | _ => none

/-- The constant as one of the wanted kind, if it can be one. -/
def cast? (c : Constant) (wanted : ConstantKind) : Option Constant :=
  match c, wanted with
  | c, .any => some c
  | int n, .int => some (int n)
  | str s, .int => (Numeral.word? (Text.trim s)).map int
  | bool _, .int => none
  | c, .str => some (str c.display)
  | bool b, .bool => some (bool b)
  | str "true", .bool => some (bool true)
  | str "false", .bool => some (bool false)
  | str _, .bool => none
  | int _, .bool => none

/-- The value of a member selected on a constant, for the members whose effect is known. -/
def select? (c : Constant) (member : String) : Option Constant :=
  match member with
  | "name" | "intern" | "value" => some c
  | "toString" | "str" => some (str c.display)
  | "trim" | "strip" => some (str (Text.trim c.display))
  | "toUpperCase" | "upper" => some (str (Text.toUppercase c.display))
  | "toLowerCase" | "lower" => some (str (Text.toLowercase c.display))
  | _ => none

/-- The value after all the selections, of which the last was made first. -/
def selectAll? (c : Constant) : List String → Option Constant
  | [] => some c
  | member :: inner => (selectAll? c inner).bind fun value => value.select? member

/-- The constant in a report. -/
def toJson : Constant → Json
  | int n => .num n.toInt
  | str s => .str s
  | bool b => .bool b

end Constant

end CryptoUsage
