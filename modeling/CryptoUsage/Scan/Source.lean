import CryptoUsage.Scan.Run

/-!
# Scanning files

A file is scanned in the language that its extension names.  Which language that is comes first,
so a file of no known language is refused before anyone tries to read it.

## What is here

`Scanner.scanOfFile` makes the scan of a file, or says why there is none.  It is given what was
read at the path, if anything, and how a text of a language is parsed; parsing is not a part of
the library, so it is a parameter, and a parser that gives no tree is one of the reasons.

The reasons are in two layers with a wording each: what can be wrong with a source (`SourceError`)
and why a file could not be scanned (`FileError`).  The message that is reported is the outer
one.  In their order they are: no known language, a file that cannot be read, and a text that is
not parsed.
-/

set_option autoImplicit false

namespace CryptoUsage

/-- What can be wrong with a source text. -/
inductive SourceError where
  | unsupportedLanguage (language : String)
  | languageSetupFailed (language : String)
  | parseFailed (path : String)
deriving DecidableEq, Repr

/-- The wording of a source error. -/
def SourceError.message : SourceError → String
  | unsupportedLanguage language => "unsupported language: " ++ language
  | languageSetupFailed language => "failed to set parser language: " ++ language
  | parseFailed path => "failed to parse source code in " ++ path

/-- Why a file could not be scanned. -/
inductive FileError where
  | cannotScan (path : String) (cause : SourceError)
  | cannotRead (path : String)
  | badSource (error : SourceError)
deriving DecidableEq, Repr

/-- The wording of a file error. -/
def FileError.message : FileError → String
  | cannotScan path _ => "Cannot scan " ++ path
  | cannotRead path => "Failed to read " ++ path
  | badSource error => error.message

/-- The scan of a file with the given contents, if there are any, given how its language is
parsed. -/
def Scanner.scanOfFile (scanner : Scanner) (path : String) (contents : Option ByteArray)
    (parse : Language → String → Option SyntaxTree) : Except FileError Scan := do
  let extension := (Text.fileExtension? path).getD ""
  let some language := Language.ofExtension? extension
    | throw (.cannotScan path (.unsupportedLanguage extension))
  let some source := contents.bind Text.ofBytes?
    | throw (.cannotRead path)
  let some tree := parse language source
    | throw (.badSource (.parseFailed path))
  return { scanner with unit := { language, filePath := path, tree } }

end CryptoUsage
