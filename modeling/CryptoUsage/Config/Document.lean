import CryptoUsage.Config.Limits

/-!
# Limits read from a document

A configuration file holds a document: a table of named settings.  Settings that are missing have
their defaults, unknown names are passed over, and a name that is set twice is an error.

Only natural numbers and truth values can be limits.  Whatever else stands as the value of a
setting, a text, another number or a collection, is `SettingValue.other`: it is looked at by
nobody.

## What is here

A document is all that a reader of a format has to find out (`Document`), so that the formats
share one way of making limits.

* `SettingValue.ofNumeral` keeps numbers that fit 64 bits and no others.
* `Settings` are the settings made so far.  `Settings.set?` makes one more: under a known name the
  value must be of the kind of the setting, and it must not have been made before
  (`Settings.once`).  `Settings.config` fills in the defaults.
* `ScanConfig.ofMembers?` goes through the members of a table in their order, and
  `ScanConfig.ofItems?` takes a list for the values of the settings in the order in which they are
  declared.
-/

set_option autoImplicit false

namespace CryptoUsage

/-- The value of a setting in a file. -/
inductive SettingValue where
  /-- A natural number of at most 64 bits. -/
  | natural (n : Nat)
  | truth (b : Bool)
  /-- Anything else. -/
  | other
deriving DecidableEq, Repr

namespace SettingValue

/-- The natural number for the value of a numeral; a greater one is not for us. -/
def ofNumeral (n : Nat) : SettingValue := if n < UInt64.size then natural n else other

/-- The number that a setting is set to. -/
def natural? : SettingValue → Option Nat
  | natural n => some n
  | _ => none

/-- The truth value that a setting is set to. -/
def truth? : SettingValue → Option Bool
  | truth b => some b
  | _ => none

end SettingValue

/-- What a configuration file holds. -/
inductive Document where
  /-- Nothing is written. -/
  | absent
  | list (items : List SettingValue)
  | table (members : List (String × SettingValue))
  /-- A single value. -/
  | single
deriving DecidableEq, Repr

/-- Settings some of which are made. -/
structure Settings where
  maxResolutionDepth : Option Nat := none
  maxHookChain : Option Nat := none
  maxStoreDepth : Option Nat := none
  matchSubtypes : Option Bool := none
deriving DecidableEq, Repr

namespace Settings

/-- A setting once it is made: it must not have been made before, and the value must be of its
kind. -/
def once {α : Type} (before value : Option α) : Option (Option α) :=
  match before with
  | none => value.map some
  | some _ => none

/-- The settings after one member of a table. -/
def set? (settings : Settings) (member : String × SettingValue) : Option Settings :=
  let (name, value) := member
  match name with
  | "max_resolution_depth" =>
    (once settings.maxResolutionDepth value.natural?).map fun v =>
      { settings with maxResolutionDepth := v }
  | "max_hook_chain" =>
    (once settings.maxHookChain value.natural?).map fun v => { settings with maxHookChain := v }
  | "max_store_depth" =>
    (once settings.maxStoreDepth value.natural?).map fun v => { settings with maxStoreDepth := v }
  | "match_subtypes" =>
    (once settings.matchSubtypes value.truth?).map fun v => { settings with matchSubtypes := v }
  | _ => some settings

/-- The limits, with defaults for the settings that are not made. -/
def config (settings : Settings) : ScanConfig :=
  let defaults : ScanConfig := {}
  { maxResolutionDepth := settings.maxResolutionDepth.getD defaults.maxResolutionDepth
    maxHookChain := settings.maxHookChain.getD defaults.maxHookChain
    maxStoreDepth := settings.maxStoreDepth.getD defaults.maxStoreDepth
    matchSubtypes := settings.matchSubtypes.getD defaults.matchSubtypes }

end Settings

/-- The names of the settings, in order. -/
def settingNames : List String :=
  ["max_resolution_depth", "max_hook_chain", "max_store_depth", "match_subtypes"]

/-- The limits in a table of settings. -/
def ScanConfig.ofMembers? (members : List (String × SettingValue)) : Option ScanConfig :=
  (members.foldlM Settings.set? {}).map Settings.config

/-- The limits in a list of the values of the first settings, in order. -/
def ScanConfig.ofItems? (items : List SettingValue) : Option ScanConfig :=
  if settingNames.length < items.length then none
  else ScanConfig.ofMembers? (settingNames.zip items)

end CryptoUsage
