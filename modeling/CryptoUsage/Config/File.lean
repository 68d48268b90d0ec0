import CryptoUsage.Config.JsonText
import CryptoUsage.Config.Yaml.Document
import CryptoUsage.Text.CaseMapping
import CryptoUsage.Text.Path

/-!
# Configuration files

The format of a configuration file is named by its extension.  The file is read before anyone
looks at its extension, so a missing file is reported as missing whatever it is called.

In JSON the limits may also be listed by value, in order.  In YAML a file without content has all
the defaults.

## What is here

`ScanConfig.ofFile` is the loader.  It is given the path and the text that was read from there, or
nothing if reading failed, and goes through the reasons to refuse a file in their order: it cannot
be read, its extension names no format, or its text holds no limits (`ConfigError`, with the
wording of each).  The extension is compared without regard to case, and without one there is no
format.

`ofJson?` and `ofYaml?` read the document of a text and make limits of it.  They differ in what
may stand in place of a table: a list in JSON, nothing in YAML.

That a text with certain settings gives the limits with these settings, in either format, is
proved in the file on loading.
-/

set_option autoImplicit false

namespace CryptoUsage

/-- Why a configuration file gave no limits. -/
inductive ConfigError where
  | readFailed (path detail : String)
  | parseFailed (path detail : String)
  | unsupportedFormat (format : String)
deriving DecidableEq, Repr

/-- The wording of a configuration error. -/
def ConfigError.message : ConfigError → String
  | readFailed path detail => "failed to read config file '" ++ path ++ "': " ++ detail
  | parseFailed path detail => "failed to parse config file '" ++ path ++ "': " ++ detail
  | unsupportedFormat format =>
    "unsupported config format: " ++ format ++ " (expected json or yaml)"

namespace ScanConfig

/-- The limits in a JSON text. -/
def ofJson? (text : String) : Option ScanConfig :=
  match JsonText.document? text with
  | some (.table members) => ofMembers? members
  | some (.list items) => ofItems? items
  | _ => none

/-- The limits in a YAML text. -/
def ofYaml? (text : String) : Option ScanConfig :=
  match Yaml.document? text with
  | some (.table members) => ofMembers? members
  | some .absent => some {}
  | _ => none

/-- The limits in the configuration file at a path with the given text, if there is such a file. -/
def ofFile (path : String) (text : Option String) : Except ConfigError ScanConfig := do
  let some text := text
    | throw (.readFailed path "no such file")
  let format := Text.toLowercase ((Text.fileExtension? path).getD "")
  let config? ←
    match format with
    | "json" => pure (ofJson? text)
    | "yaml" | "yml" => pure (ofYaml? text)
    | _ => throw (.unsupportedFormat format)
  match config? with
  | some config => return config
  | none => throw (.parseFailed path "not a table of limits")

end ScanConfig

end CryptoUsage
