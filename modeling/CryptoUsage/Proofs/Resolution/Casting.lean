import CryptoUsage.Catalog.Value
import CryptoUsage.Proofs.Resolution.Flow
import CryptoUsage.Proofs.Syntax.DecimalNumerals

/-!
# Casting constants

A constant is cast before a factory sees it.  Whatever its kind, it is cast to a text by writing
it (`cast?_str`), and to a number by reading what would be written (`cast?_int`).  So casting
comes down to decimal numerals: a number comes back from its text, and a text that stands for a
number comes back as the canonical numeral of that.

All that resolution hands to a factory has been cast to the kind that the factory expects.  A size
is then refused only for being negative, and a name only for being empty.

## How it goes

* Casts.  A constant is a number exactly if what it is written as stands for one, up to blank
  margins (`cast?_int_eq_some_iff`), which is said by the relation between numerals and words and
  not by the reader.  What was cast is of the kind that was wanted, and casting it once more
  changes nothing (`kind_and_cast?_of_cast?`).
* Factories.  The factories for sizes and for names refuse nothing that was cast for them but
  negative numbers and empty texts (`create?_size_eq_none_iff`, `create?_name_eq_none_iff`); what
  they make can be read back (`asInt?_of_create?`, `value_of_create?`).
* Resolution.  Every reading is derived by the flow of values, and a derived reading has the kind
  that its factory expects (`Resolves.kind`).

`casts_keep_values` says all of this together, over all constants, kinds and 64-bit words.  The
example has a size with blanks, a sign and zeros in front.
-/

set_option autoImplicit false

namespace CryptoUsage

namespace Constant

variable {c value : Constant} {wanted : ConstantKind} {n : Int64}

/-- Every constant is a text as it is written. -/
theorem cast?_str (c : Constant) : c.cast? .str = some (str c.display) := by
  cases c <;> rfl

/-- A constant is a number if what it is written as is one, up to blank margins. -/
theorem cast?_int (c : Constant) :
    c.cast? .int = (Numeral.word? (Text.trim c.display)).map int := by
  cases c with
  | int n =>
    have hread := Numeral.word?_trim_eq_some_iff.mpr (Numeral.standsFor_decimal n)
    rw [display, hread]
    rfl
  | str s => rfl
  | bool b => cases b <;> decide

theorem cast?_int_eq_some_iff :
    c.cast? .int = some (int n) ↔ Numeral.StandsFor c.display n := by
  rw [cast?_int, ← Numeral.word?_trim_eq_some_iff, Option.map_eq_some_iff]
  constructor
  · rintro ⟨m, hm, ⟨⟩⟩
    exact hm
  · exact fun h => ⟨n, h, rfl⟩

theorem cast?_kind (c : Constant) : c.cast? c.kind = some c := by
  cases c <;> rfl

/-- What was cast is of the kind that was wanted, so there is nothing left to cast. -/
theorem kind_and_cast?_of_cast? (hwanted : wanted ≠ .any) (h : c.cast? wanted = some value) :
    value.kind = wanted ∧ value.cast? wanted = some value := by
  obtain rfl := (kind_of_cast? h).resolve_left hwanted
  exact ⟨rfl, cast?_kind value⟩

theorem exists_int_of_kind (h : c.kind = .int) : ∃ n, c = int n := by
  cases c with
  | int n => exact ⟨n, rfl⟩
  | str s | bool b => cases h

theorem exists_str_of_kind (h : c.kind = .str) : ∃ text, c = str text := by
  cases c with
  | str text => exact ⟨text, rfl⟩
  | int n | bool b => cases h

end Constant

/-- A size is the numeral of its number. -/
theorem DetectedValue.asInt?_sized (kind : ValueKind) (n : Int64) (unit : SizeUnit)
    (location : Location) : (sized kind n unit location).asInt? = some n :=
  Numeral.word?_decimal n

namespace ValueFactory

variable {kind : ValueKind} {unit : SizeUnit} {n : Int64} {text : String} {location : Location}
  {value : DetectedValue}

/-- A number is refused as a size only if it is negative. -/
theorem create?_size_eq_none_iff :
    (size kind unit).create? (.int n) location = none ↔ n < 0 := by
  simp [size]

/-- A text is refused as a name only if it is empty. -/
theorem create?_name_eq_none_iff :
    (name kind).create? (.str text) location = none ↔ text = "" := by
  simp [name]

/-- The number of a size can be read off it. -/
theorem asInt?_of_create? (h : (size kind unit).create? (.int n) location = some value) :
    value.asInt? = some n := by
  obtain ⟨-, ⟨⟩⟩ := Option.ite_none_right_eq_some.mp h
  exact DetectedValue.asInt?_sized kind n unit location

theorem value_of_create? (h : (name kind).create? (.str text) location = some value) :
    value.value = text := by
  obtain ⟨-, ⟨⟩⟩ := Option.ite_none_left_eq_some.mp h
  rfl

end ValueFactory

namespace CompilationUnit

/-- What resolution hands to a factory: the readings of an expression, or of what a method returns
to a caller. -/
inductive Resolves (u : CompilationUnit) (config : ScanConfig) (factory : ValueFactory)
    (reading : Reading) : Prop
  | value {selections : List String} {n : NodeId}
    (mem : reading ∈ u.resolveValue config factory selections n)
  | returned {selections : List String} {method : NodeId} {site : Site}
    (mem : reading ∈ u.resolveReturns config factory selections method site)

variable {u : CompilationUnit} {config : ScanConfig} {factory : ValueFactory} {reading : Reading}

/-- Whatever a factory is handed has the kind that it expects. -/
theorem Resolves.kind (h : u.Resolves config factory reading) :
    factory.expected = .any ∨ reading.constant.kind = factory.expected := by
  have hall := derivesAll_resolveWithin u config factory (config.maxResolutionDepth + 1) []
  cases h with
  | value mem => exact (hall mem).kind
  | returned mem =>
    obtain ⟨source, -, hsource⟩ := List.mem_flatMap.mp mem
    exact (hall hsource).kind

end CompilationUnit

/-- **Casting loses nothing that it should keep.**  A cast constant has the kind that was wanted and
is not changed by another cast.  Numbers and truth values come back from their texts.  The texts
that are cast to a number are its decimal numerals, however they are padded, and cast back they are
its canonical one.  A size has the number that it was made of.  What resolution hands to a factory
is a number where a size is wanted and a text where a name is, so a size is refused only for being
negative and a name only for being empty. -/
theorem casts_keep_values :
    (∀ (c value : Constant) (wanted : ConstantKind), wanted ≠ .any → c.cast? wanted = some value →
        value.kind = wanted ∧ value.cast? wanted = some value) ∧
      (∀ n, ((Constant.int n).cast? .str).bind (·.cast? .int) = some (.int n)) ∧
      (∀ b, ((Constant.bool b).cast? .str).bind (·.cast? .bool) = some (.bool b)) ∧
      (∀ (c : Constant) (n : Int64),
        (c.cast? .int = some (.int n) ↔ Numeral.StandsFor c.display n) ∧
        (c.cast? .int = some (.int n) →
          ∃ text, ((c.cast? .int).bind (·.cast? .str)) = some (.str text) ∧
            ∀ cs, Numeral.IsCanonical cs n.toInt ↔ text.toList = cs)) ∧
      (∀ kind n unit location, (DetectedValue.sized kind n unit location).asInt? = some n) ∧
      ∀ (u : CompilationUnit) (config : ScanConfig) (kind : ValueKind) (reading : Reading),
        (∀ unit, u.Resolves config (.size kind unit) reading →
          ∃ n, reading.constant = .int n ∧ ∀ location,
            ((ValueFactory.size kind unit).create? reading.constant location = none ↔ n < 0) ∧
            ∀ value, (ValueFactory.size kind unit).create? reading.constant location = some value →
              value.asInt? = some n) ∧
        (u.Resolves config (.name kind) reading →
          ∃ text, reading.constant = .str text ∧ ∀ location,
            ((ValueFactory.name kind).create? reading.constant location = none ↔ text = "") ∧
            ∀ value, (ValueFactory.name kind).create? reading.constant location = some value →
              value.value = text) := by
  refine ⟨fun c value wanted => Constant.kind_and_cast?_of_cast?, fun n => ?_, fun b => ?_,
    fun c n => ⟨Constant.cast?_int_eq_some_iff, fun h => ?_⟩, DetectedValue.asInt?_sized,
    fun u config kind reading => ⟨fun unit h => ?_, fun h => ?_⟩⟩
  · rw [Constant.cast?_str, Option.bind_some]
    exact Constant.cast?_int_eq_some_iff.mpr (Numeral.standsFor_decimal n)
  · cases b <;> rfl
  · refine ⟨Numeral.decimal n, ?_, fun cs => Numeral.isCanonical_iff⟩
    rw [h, Option.bind_some, Constant.cast?_str]
    rfl
  · obtain ⟨n, hn⟩ := Constant.exists_int_of_kind (h.kind.resolve_left nofun)
    rw [hn]
    exact ⟨n, rfl, fun location =>
      ⟨ValueFactory.create?_size_eq_none_iff, fun value => ValueFactory.asInt?_of_create?⟩⟩
  · obtain ⟨text, htext⟩ := Constant.exists_str_of_kind (h.kind.resolve_left nofun)
    rw [htext]
    exact ⟨text, rfl, fun location =>
      ⟨ValueFactory.create?_name_eq_none_iff, fun value => ValueFactory.value_of_create?⟩⟩

/-! ## A padded size

In this program the number seven is padded in every way:

    " +007 "
-/

namespace Padded

/-- The nodes of the program. -/
def nodes : Array SyntaxNode := #[
  ⟨none, "module", true, none, ⟨1, 1, 0, 9⟩, "\" +007 \"\n"⟩,
  ⟨some 0, "expression_statement", true, none, ⟨1, 1, 0, 8⟩, "\" +007 \""⟩,
  ⟨some 1, "string", true, none, ⟨1, 1, 0, 8⟩, "\" +007 \""⟩,
  ⟨some 2, "string_start", true, none, ⟨1, 1, 0, 1⟩, "\""⟩,
  ⟨some 2, "string_content", true, none, ⟨1, 2, 1, 7⟩, " +007 "⟩,
  ⟨some 2, "string_end", true, none, ⟨1, 8, 7, 8⟩, "\""⟩]

/-- The unit with the program. -/
def unit : CompilationUnit where
  language := .python
  filePath := "m.py"
  tree := { nodes, parent_lt := by decide +kernel }

/-- The text, as a size. -/
def size : Reading := ⟨.int 7, 2⟩

/-- The text, as a name. -/
def name : Reading := ⟨.str " +007 ", 2⟩

theorem resolves_size : unit.Resolves {} .keyBits size := by
  have hmem : size ∈ unit.resolveValue {} .keyBits [] 2 := by decide +kernel
  exact .value hmem

theorem resolves_name : unit.Resolves {} .algorithm name := by
  have hmem : name ∈ unit.resolveValue {} .algorithm [] 2 := by decide +kernel
  exact .value hmem

theorem isNatural_seven : Numeral.IsNatural ['0', '0', '7'] 7 ∧ Numeral.IsNatural ['7'] 7 :=
  ⟨⟨List.cons_ne_nil _ _, by simp, rfl⟩, ⟨List.cons_ne_nil _ _, by simp, rfl⟩⟩

/-- The padding is blanks, a plus sign and zeros. -/
theorem standsFor_seven : Numeral.StandsFor " +007 " 7 :=
  ⟨[' '], ['+', '0', '0', '7'], [' '], by decide, by simp [Text.isBlank], by simp [Text.isBlank],
    .plus isNatural_seven.1⟩

end Padded

/-- The padded text is cast to the number seven, whose own text has no padding.  It is accepted as
a size, which is seven, and as a name, which has the padding. -/
theorem padded_seven_is_kept :
    (Numeral.StandsFor " +007 " 7 ∧ (Constant.str " +007 ").cast? .int = some (.int 7)) ∧
      ((Constant.int 7).kind = .int ∧ (Constant.int 7).cast? .int = some (.int 7)) ∧
      (∃ text, ((Constant.str " +007 ").cast? .int).bind (·.cast? .str) = some (.str text) ∧
        text.toList = ['7']) ∧
      (Padded.unit.Resolves {} .keyBits Padded.size ∧
        ∀ location, ∃ value, ValueFactory.keyBits.create? Padded.size.constant location =
          some value ∧ value.asInt? = some 7) ∧
      Padded.unit.Resolves {} .algorithm Padded.name ∧
        ∀ location, ∃ value, ValueFactory.algorithm.create? Padded.name.constant location =
          some value ∧ value.value = " +007 " := by
  obtain ⟨hcast, -, -, hint, -, hfactory⟩ := casts_keep_values
  have hseven : (Constant.str " +007 ").cast? .int = some (.int 7) :=
    (hint (.str " +007 ") 7).1.mpr Padded.standsFor_seven
  have hcanonical : Numeral.IsCanonical ['7'] (7 : Int64).toInt :=
    .positive Padded.isNatural_seven.2 (by decide)
  refine ⟨⟨Padded.standsFor_seven, hseven⟩, hcast _ _ .int nofun hseven, ?_,
    ⟨Padded.resolves_size, fun location => ?_⟩, Padded.resolves_name, fun location => ?_⟩
  · obtain ⟨text, htext, hall⟩ := (hint (.str " +007 ") 7).2 hseven
    exact ⟨text, htext, (hall ['7']).mp hcanonical⟩
  · obtain ⟨n, hn, hcreate⟩ := (hfactory Padded.unit {} .keySize _).1 .bit Padded.resolves_size
    obtain rfl : (7 : Int64) = n := Constant.int.inj hn
    obtain ⟨hrefused, hvalue⟩ := hcreate location
    obtain ⟨value, hcreated⟩ := Option.ne_none_iff_exists'.mp (mt hrefused.mp (by decide))
    exact ⟨value, hcreated, hvalue value hcreated⟩
  · obtain ⟨text, htext, hcreate⟩ := (hfactory Padded.unit {} .algorithm _).2 Padded.resolves_name
    obtain rfl : " +007 " = text := Constant.str.inj htext
    obtain ⟨hrefused, hvalue⟩ := hcreate location
    obtain ⟨value, hcreated⟩ := Option.ne_none_iff_exists'.mp (mt hrefused.mp (by decide))
    exact ⟨value, hcreated, hvalue value hcreated⟩

end CryptoUsage
