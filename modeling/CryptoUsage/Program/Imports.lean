import CryptoUsage.Syntax.Language
import CryptoUsage.Syntax.Tree
import CryptoUsage.Text.Dotted

/-!
# Import tables

An import binds a short name to the full path it stands for, or opens a whole package.  `Imports`
holds both for one unit; a later binding of a short name replaces an earlier one.

Java binds the last segment of an imported path.  In Python, what is bound is the first segment of
a module that is imported as it is, the alias of one with an alias, and each name that is taken
from a module, which stands for `module.name`.  What functions and classes import inside is not
seen.

## What is here

* `Imports` with the two ways to add to it and the two ways to look into it.  Bindings are kept in
  order, the latest first, and a short name is bound once.
* Java.  `addJavaImport` is the effect of one import, and `ofJava` that of all of them;
  `javaPackage?` reads the package of a unit off its declaration.
* Python.  There are statements that name modules and statements that name what is taken from one,
  each with or without an alias; `ofPython` goes through the nodes of a unit, but not into
  functions and classes.
* `ofTree` and `packageOf?` pick one by the language.
-/

set_option autoImplicit false

namespace CryptoUsage

/-- The names a unit imports. -/
structure Imports where
  /-- The full path bound to each short name. -/
  bindings : List (String × String) := []
  /-- The packages opened as a whole, in order. -/
  wildcards : List String := []
deriving DecidableEq, Repr

namespace Imports

/-- The table with `short` bound to `full`. -/
def insert (imports : Imports) (short full : String) : Imports :=
  { imports with bindings := (short, full) :: imports.bindings.filter fun b => b.1 != short }

/-- The table with one more package opened. -/
def insertWildcard (imports : Imports) (package : String) : Imports :=
  { imports with wildcards := imports.wildcards ++ [package] }

/-- The path bound to a short name. -/
def get? (imports : Imports) (short : String) : Option String := imports.bindings.lookup short

/-- Whether a short name is bound. -/
def binds (imports : Imports) (short : String) : Bool := (imports.get? short).isSome

/-- The number of short names that are bound. -/
def size (imports : Imports) : Nat := imports.bindings.length

/-- Whether nothing is imported. -/
def isEmpty (imports : Imports) : Bool := imports.bindings.isEmpty && imports.wildcards.isEmpty

/-! ## Java -/

/-- The table after one Java import: its last path, opened if there is an asterisk, and bound to its
last segment otherwise. -/
def addJavaImport (t : SyntaxTree) (imports : Imports) (node : NodeId) : Imports :=
  let children := t.children node
  let isPath (n : NodeId) : Bool := t.kind n == "scoped_identifier" || t.kind n == "identifier"
  match (children.filter isPath).getLast? with
  | none => imports
  | some pathNode =>
    let path := t.text pathNode
    if children.any fun n => t.kind n == "asterisk" then imports.insertWildcard path
    else
      match Text.splitQualified? path with
      | some (_, short) => imports.insert short path
      | none => imports

/-- The imports of a Java unit. -/
def ofJava (t : SyntaxTree) : Imports :=
  ((t.namedChildren SyntaxTree.root).filter fun n => t.kind n == "import_declaration").foldl
    (addJavaImport t) {}

/-- The package a Java unit declares. -/
def javaPackage? (t : SyntaxTree) : Option String := do
  let package ← (t.namedChildren SyntaxTree.root).find? fun n => t.kind n == "package_declaration"
  let name ← (t.namedChildren package).find? fun n =>
    t.kind n == "scoped_identifier" || t.kind n == "identifier"
  return t.text name

/-! ## Python -/

/-- The alias of an aliased import and what it stands for. -/
def pythonAlias? (t : SyntaxTree) (node : NodeId) : Option (String × String) := do
  let name ← t.child? node "name"
  let bound ← t.child? node "alias"
  return (t.text bound, t.text name)

/-- The table after one name of a Python `import` statement. -/
def addPythonModule (t : SyntaxTree) (imports : Imports) (node : NodeId) : Imports :=
  match t.kind node with
  | "dotted_name" =>
    let bound := Text.firstSegment (t.text node)
    imports.insert bound bound
  | "aliased_import" =>
    match pythonAlias? t node with
    | some (bound, path) => imports.insert bound path
    | none => imports
  | _ => imports

/-- The table after one name of a Python `from` statement that imports from `module`. -/
def addPythonName (t : SyntaxTree) (module : String) (imports : Imports) (node : NodeId) :
    Imports :=
  match t.kind node with
  | "dotted_name" | "identifier" => imports.insert (t.text node) (module ++ "." ++ t.text node)
  | "aliased_import" =>
    match pythonAlias? t node with
    | some (bound, name) => imports.insert bound (module ++ "." ++ name)
    | none => imports
  | _ => imports

/-- The table after a Python `from` statement. -/
def addPythonFrom (t : SyntaxTree) (imports : Imports) (node : NodeId) : Imports :=
  match t.child? node "module_name" with
  | none => imports
  | some moduleNode =>
    let module := t.text moduleNode
    let wildcards := (t.namedChildren node).filter fun n => t.kind n == "wildcard_import"
    let opened := wildcards.foldl (fun imports _ => imports.insertWildcard module) imports
    (t.childrenIn node "name").foldl (addPythonName t module) opened

/-- The table after one node of a Python unit. -/
def addPythonNode (t : SyntaxTree) (imports : Imports) (node : NodeId) : Imports :=
  match t.kind node with
  | "import_statement" => (t.childrenIn node "name").foldl (addPythonModule t) imports
  | "import_from_statement" => addPythonFrom t imports node
  | _ => imports

/-- Whether imports are looked for inside a node of a Python unit. -/
def pythonImportsInside (t : SyntaxTree) (node : NodeId) : Bool :=
  let closed :=
    ["import_statement", "import_from_statement", "function_definition", "class_definition"]
  t.isNamed node && !closed.contains (t.kind node)

/-- The imports of a Python unit. -/
def ofPython (t : SyntaxTree) : Imports :=
  (t.preorderWhile (pythonImportsInside t) SyntaxTree.root).foldl (addPythonNode t) {}

/-! ## Either language -/

/-- The imports of a unit. -/
def ofTree (language : Language) (t : SyntaxTree) : Imports :=
  match language with
  | .java => ofJava t
  | .python => ofPython t

end Imports

/-- The package a unit declares; only Java has them. -/
def packageOf? (language : Language) (t : SyntaxTree) : Option String :=
  match language with
  | .java => Imports.javaPackage? t
  | .python => none

end CryptoUsage
