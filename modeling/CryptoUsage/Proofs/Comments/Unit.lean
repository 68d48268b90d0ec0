import CryptoUsage.Program.Unit
import CryptoUsage.Proofs.Syntax.Comments

/-!
# Units without their comments

`CompilationUnit.withoutComments` is a unit without its comments: its tree is that of
`Proofs/Syntax/Comments`, and its path and language are the same.  Three tables are made of the
tree when a unit is, and this file is about them.

## What is here

* What a unit imports is the same.  For Java the imports are picked from the children of the root,
  so it is enough that a comment adds nothing and that every other child adds what it did
  (`Imports.addJavaImport_spoken`, `Imports.ofJava_withoutComments`); the package comes the same
  way (`Imports.javaPackage?_withoutComments`).
* For Python an import may stand anywhere, so the tree is walked.  The walk turns back at the same
  nodes in both trees and comments fall out of the fold (`Imports.ofPython_withoutComments`),
  which leaves one node that imports something (`Imports.addPythonNode_spoken`).
* What is declared has the same names, and the declaring nodes go by other numbers
  (`declarationsOf_spoken`).

`imports_withoutComments`, `package_withoutComments` and `declarations_spoken` say it of a unit of
either language.  They are what makes `CompilationUnit.withoutComments` well formed, for a unit
carries the equations between its tables and its tree, and they are the start for all the queries
that follow.
-/

set_option autoImplicit false

namespace CryptoUsage

open SyntaxTree

/-! ## Imports and declarations -/

section Tables

variable {t : SyntaxTree} (h : t.CommentsAreExtras)
include h

theorem Imports.addJavaImport_spoken (imports : Imports) (i : NodeId) :
    addJavaImport t imports (t.spokenId i) = addJavaImport t.withoutComments imports i := by
  have hpaths : (t.children (t.spokenId i)).filter
      (fun n => t.kind n == "scoped_identifier" || t.kind n == "identifier") =
      ((t.withoutComments.children i).filter fun n => t.withoutComments.kind n ==
        "scoped_identifier" || t.withoutComments.kind n == "identifier").map t.spokenId := by
    rw [filter_spoken (children_spoken h i)]
    · simp
    · intro c hc
      rw [kind_beq_of_isComment hc (by decide), kind_beq_of_isComment hc (by decide), Bool.or_false]
  have hopened : (t.children (t.spokenId i)).any (fun n => t.kind n == "asterisk") =
      (t.withoutComments.children i).any fun n => t.withoutComments.kind n == "asterisk" := by
    rw [any_spoken (children_spoken h i) fun c hc => kind_beq_of_isComment hc (by decide)]
    simp
  simp only [addJavaImport, hpaths, hopened, List.getLast?_map]
  cases ((t.withoutComments.children i).filter fun n => t.withoutComments.kind n ==
    "scoped_identifier" || t.withoutComments.kind n == "identifier").getLast? <;> simp

theorem Imports.ofJava_withoutComments : ofJava t.withoutComments = ofJava t := by
  have hnodes := filter_spoken (p := fun n => t.kind n == "import_declaration")
    (namedChildren_spoken h root) fun c hc => kind_beq_of_isComment hc (by decide)
  rw [spokenId_root h] at hnodes
  rw [ofJava, ofJava, hnodes, List.foldl_map]
  simp [addJavaImport_spoken h]

theorem Imports.javaPackage?_withoutComments : javaPackage? t.withoutComments = javaPackage? t := by
  have hpackage := find?_spoken (p := fun n => t.kind n == "package_declaration")
    (namedChildren_spoken h root) fun c hc => kind_beq_of_isComment hc (by decide)
  rw [spokenId_root h] at hpackage
  have hname (i : NodeId) : (t.namedChildren (t.spokenId i)).find?
      (fun n => t.kind n == "scoped_identifier" || t.kind n == "identifier") =
      ((t.withoutComments.namedChildren i).find? fun n => t.withoutComments.kind n ==
        "scoped_identifier" || t.withoutComments.kind n == "identifier").map t.spokenId := by
    rw [find?_spoken (namedChildren_spoken h i)]
    · simp
    · intro c hc
      rw [kind_beq_of_isComment hc (by decide), kind_beq_of_isComment hc (by decide), Bool.or_false]
  simp [javaPackage?, hpackage, hname, Option.bind_map, Function.comp_def]

theorem Imports.pythonAlias?_spoken (i : NodeId) :
    pythonAlias? t (t.spokenId i) = pythonAlias? t.withoutComments i := by
  simp [pythonAlias?, h, Option.bind_map, Function.comp_def]

theorem Imports.addPythonNode_spoken (imports : Imports) (i : NodeId) :
    addPythonNode t imports (t.spokenId i) = addPythonNode t.withoutComments imports i := by
  have hmodule (imports : Imports) (i : NodeId) :
      addPythonModule t imports (t.spokenId i) = addPythonModule t.withoutComments imports i := by
    simp only [addPythonModule, kind_spoken, text_spoken, pythonAlias?_spoken h]
  have hname (module : String) (imports : Imports) (i : NodeId) :
      addPythonName t module (imports) (t.spokenId i) =
        addPythonName t.withoutComments module imports i := by
    simp only [addPythonName, kind_spoken, text_spoken, pythonAlias?_spoken h]
  have hopened (i : NodeId) := filter_spoken (p := fun n => t.kind n == "wildcard_import")
    (namedChildren_spoken h i) fun c hc => kind_beq_of_isComment hc (by decide)
  have hfrom : addPythonFrom t imports (t.spokenId i) =
      addPythonFrom t.withoutComments imports i := by
    simp only [addPythonFrom, child?_spoken h, childrenIn_spoken h, hopened, List.foldl_map, hname,
      kind_spoken]
    cases t.withoutComments.child? i "module_name" <;> simp
  simp only [addPythonNode, kind_spoken, childrenIn_spoken h, List.foldl_map, hmodule, hfrom]

theorem Imports.ofPython_withoutComments : ofPython t.withoutComments = ofPython t := by
  have hinside : (fun n => pythonImportsInside t (t.spokenId n)) =
      pythonImportsInside t.withoutComments := by
    funext n
    simp only [pythonImportsInside, kind_spoken, isNamed_spoken]
  have hnodes := preorderWhile_spoken h (pythonImportsInside t) root
  rw [spokenId_root h, hinside] at hnodes
  have hcomment (imports : Imports) (c : NodeId) (hc : t.isComment c = true) :
      addPythonNode t imports c = imports := by
    unfold addPythonNode
    split
    case h_1 hkind | h_2 hkind =>
      exact absurd hkind (kind_ne_of_isComment hc (by decide))
    · rfl
  rw [ofPython, ofPython, foldl_spoken hnodes hcomment]
  simp only [addPythonNode_spoken h]

theorem declarationsOf_spoken (language : Language) : declarationsOf language t =
    (declarationsOf language t.withoutComments).map (Prod.map id t.spokenId) := by
  have hnodes := preorder_spoken h root
  rw [spokenId_root h] at hnodes
  have hcomment (c : NodeId) (hc : t.isComment c = true) :
      (declarationKinds language).contains (t.kind c) = false := by
    cases language <;> exact contains_kind_of_isComment hc (by decide)
  rw [declarationsOf, declarationsOf,
    filterMap_spoken hnodes fun c hc => by rw [hcomment c hc]; rfl, List.map_filterMap]
  refine List.filterMap_congr fun n _ => ?_
  simp only [kind_spoken, child?_spoken h]
  split
  · cases t.withoutComments.child? n "name" <;> simp
  · rfl

end Tables

/-! ## Units -/

namespace CompilationUnit

variable (u : CompilationUnit)

/-- The unit without its comments. -/
abbrev withoutComments : CompilationUnit where
  language := u.language
  filePath := u.filePath
  tree := u.tree.withoutComments

variable {u} (h : u.tree.CommentsAreExtras)
include h

theorem imports_withoutComments :
    Imports.ofTree u.language u.tree.withoutComments = u.imports := by
  rw [u.imports_eq]
  cases u.language with
  | java => exact Imports.ofJava_withoutComments h
  | python => exact Imports.ofPython_withoutComments h

theorem package_withoutComments : packageOf? u.language u.tree.withoutComments = u.package := by
  rw [u.package_eq]
  cases u.language with
  | java => exact Imports.javaPackage?_withoutComments h
  | python => rfl

theorem declarations_spoken :
    u.declarations = u.withoutComments.declarations.map (Prod.map id u.tree.spokenId) := by
  rw [u.declarations_eq]
  exact declarationsOf_spoken h u.language

end CompilationUnit
end CryptoUsage
