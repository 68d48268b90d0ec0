import CryptoUsage.Program.Imports
import CryptoUsage.Program.Shape
import CryptoUsage.Text.Path

/-!
# Compilation units

A unit is a syntax tree with its language and the path of its file.  Three tables are read off the
tree when the unit is made, because they are asked for all the time: the imports, the package, and
the named declarations.  The structure carries the equations that say so; a unit is therefore
determined by its tree, language and path.

## What is here

* `declarationsOf` lists the named declarations of a tree in pre-order: types in Java, functions
  and classes in Python.  A name may be declared more than once, and where a declaration is looked
  for, the first one counts.
* `CompilationUnit` is what everything else asks its questions of.  Its tables are fields with
  defaults, and the proofs that they are the right ones are fields as well, so that a unit with
  other tables cannot be written down.
* `moduleName` is the name of the file without its extension, by which Python qualifies what a
  unit defines.
-/

set_option autoImplicit false

namespace CryptoUsage

/-- The node kinds of a language that declare a name for the whole unit: types in Java, functions
and classes in Python. -/
def declarationKinds : Language → List String
  | .java => Category.typeDeclaration.javaKinds
  | .python => ["function_definition", "class_definition"]

/-- The named declarations of a unit, in pre-order. -/
def declarationsOf (language : Language) (t : SyntaxTree) : List (String × NodeId) :=
  (t.preorder SyntaxTree.root).filterMap fun n =>
    if (declarationKinds language).contains (t.kind n) then
      (t.child? n "name").map fun name => (t.text name, n)
    else none

/-- A compilation unit. -/
structure CompilationUnit where
  language : Language
  filePath : String
  tree : SyntaxTree
  /-- What the unit imports. -/
  imports : Imports := Imports.ofTree language tree
  imports_eq : imports = Imports.ofTree language tree := by rfl
  /-- The package the unit declares. -/
  package : Option String := packageOf? language tree
  package_eq : package = packageOf? language tree := by rfl
  /-- The names the unit declares, with the declaring nodes. -/
  declarations : List (String × NodeId) := declarationsOf language tree
  declarations_eq : declarations = declarationsOf language tree := by rfl

namespace CompilationUnit

/-- The name of the unit as a module: its file name without the extension. -/
def moduleName (u : CompilationUnit) : String := (Text.fileStem? u.filePath).getD ""

end CompilationUnit

end CryptoUsage
