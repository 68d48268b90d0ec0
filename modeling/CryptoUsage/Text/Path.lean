import CryptoUsage.Text.Dotted

/-!
# File names

A path is cut at its slashes; empty segments and `.` name nothing.  Its file name is the last
segment, unless that is `..`.  A dot that is not the first character of the file name separates
the stem from the extension, and the last such dot counts.

## What is here

* `fileName?` is the file name at the end of a path, if it has one.
* `fileStem?` is the name without its extension, which is the name of a module, and
  `fileExtension?` the extension without the dot, which names the language of a source and the
  format of a configuration.

A file whose name begins with its only dot has no extension, and nor has one without a dot.
-/

set_option autoImplicit false

namespace CryptoUsage
namespace Text

/-- The segments of a path that name something. -/
def pathSegments (path : String) : List (List Char) :=
  (path.toList.splitOn '/').filter fun segment => segment != [] && segment != ['.']

/-- The file name at the end of a path. -/
def fileName? (path : String) : Option (List Char) :=
  (pathSegments path).getLast?.filter fun segment => segment != ['.', '.']

/-- The file name of a path without its extension. -/
def fileStem? (path : String) : Option String :=
  (fileName? path).map fun name =>
    match splitLast? '.' name with
    | some (front, _) => if front.isEmpty then String.ofList name else String.ofList front
    | none => String.ofList name

/-- The extension of the file that a path names, without the dot. -/
def fileExtension? (path : String) : Option String :=
  (fileName? path).bind fun name =>
    match splitLast? '.' name with
    | some (front, back) => if front.isEmpty then none else some (String.ofList back)
    | none => none

end Text
end CryptoUsage
