import CryptoUsage.Proofs.Comments.JavaTypes
import CryptoUsage.Proofs.Comments.PythonTypes
import CryptoUsage.Proofs.Renumbering.Run

/-!
# What is found without the comments

A comment means nothing, so it should change nothing about what is found.
`Scan.outcome_withoutComments` is this for a whole scan and both languages: what is reported, the
findings, and how many stores and observers are left are those of the scan of the unit without its
comments, and the questions for types end in the one if they end in the other.

The condition is `CompilationUnit.CommentsApart`: no comment stands where the front end takes
nodes as they come.  For each language it is the list of these places, in
`Proofs/Comments/JavaNames` and `Proofs/Comments/PythonScopes`.  That a condition is needed is
`Scan.not_findings_withoutComments`, with a comment between the parts of a string in Python.

## How it is put together

* The other modules here compare, query by query, a unit with the unit without its comments.
  `Java.CommentsApart.renumbers` and `Python.CommentsApart.renumbers` collect the queries that an
  analysis makes: the unit without comments is the same program under other numbers
  (`CompilationUnit.Renumbers`).
* `Proofs/Renumbering/Run` has it that scans of the same program find the same, provided that they
  meet the same nodes but for some that are no sites.  Comments are no sites
  (`site?_of_isComment`), and a walk of the whole tree meets the same nodes but for them.
* Questions for types are asked of one node each, and each ends in the one unit if it does in the
  other (`typeEndsWithin`); those that are asked of a comment end at once.  This is
  `typesEnd_iff`.

`Scan.outcome_commented` are two units in which the comment is out of the way, after the parts of
a string and in front of an argument.
-/

set_option autoImplicit false

namespace CryptoUsage

open SyntaxTree

/-! ## The same program -/

namespace CompilationUnit

variable {u : CompilationUnit}

/-- A comment is no site. -/
theorem site?_of_isComment {c : NodeId} (hc : u.tree.isComment c = true) : u.site? c = none := by
  rw [site?]
  cases u.language with
  | java => exact Java.CommentsApart.site?_of_isComment hc
  | python => exact Python.CommentsApart.site?_of_isComment hc

theorem sitesIn_spoken (h : u.tree.CommentsAreExtras)
    (hsite : ∀ n, u.site? (u.tree.spokenId n) =
      (u.withoutComments.site? n).map (Site.renumber u.tree.spokenId)) (scope : NodeId) :
    u.sitesIn (u.tree.spokenId scope) =
      (u.withoutComments.sitesIn scope).map (Site.renumber u.tree.spokenId) := by
  rw [sitesIn, filterMap_spoken (preorder_spoken h scope) fun c hc => site?_of_isComment hc,
    sitesIn, List.map_filterMap]
  simp only [hsite]

end CompilationUnit

namespace Java.CommentsApart

variable {u : CompilationUnit} (h : CommentsApart u) (hlanguage : u.language = .java)
include h hlanguage

/-- A Java unit without its comments is the same program under other numbers. -/
theorem renumbers : u.withoutComments.Renumbers u.tree.spokenId u where
  injective := u.tree.spokenId_strictMono.injective
  filePath := rfl
  location := u.tree.location_spoken
  ancestors := ancestors_spoken h.extras
  site? n := by simp only [CompilationUnit.site?, hlanguage, h.site?]
  sitesIn := CompilationUnit.sitesIn_spoken h.extras fun n => by
    simp only [CompilationUnit.site?, hlanguage, h.site?]
  arguments site := by simp only [CompilationUnit.arguments, hlanguage, h.arguments]
  receiver? site := by simp only [CompilationUnit.receiver?, hlanguage, h.receiver?]
  methodName? site := by simp only [CompilationUnit.methodName?, hlanguage, h.methodName?]
  invokedObjectType? site := by
    simp only [CompilationUnit.invokedObjectType?, hlanguage, h.invokedObjectType?]
  parameterTypes site := by simp only [CompilationUnit.parameterTypes, hlanguage, h.parameterTypes]
  enumClassName? site := by simp only [CompilationUnit.enumClassName?, hlanguage, h.enumClassName?]
  expression n := by simp only [CompilationUnit.expression, hlanguage, h.expression]
  assignedSymbol? n := by simp only [CompilationUnit.assignedSymbol?, hlanguage, h.assignedSymbol?]
  initializer? s := by simp only [CompilationUnit.initializer?, hlanguage, h.initializer?]
  assignments s := by simp only [CompilationUnit.assignments, hlanguage, h.assignments]
  declaredType? s := by simp only [CompilationUnit.declaredType?, hlanguage, h.declaredType?]
  symbolScope s := by simp only [CompilationUnit.symbolScope, hlanguage, h.symbolScope]
  enclosingMethod? n := by
    simp only [CompilationUnit.enclosingMethod?, hlanguage, h.enclosingMethod?]
  enclosingScope n := by simp only [CompilationUnit.enclosingScope, hlanguage, h.enclosingScope]
  methodParameters n := by
    simp only [CompilationUnit.methodParameters, hlanguage, h.methodParameters]
  methodReturns n := by simp only [CompilationUnit.methodReturns, hlanguage, h.methodReturns]
  methodDefinition? site := by
    simp only [CompilationUnit.methodDefinition?, hlanguage, h.methodDefinition?]
  methodMatcher? n := by simp only [CompilationUnit.methodMatcher?, hlanguage, h.methodMatcher?]
  enumNamed? name := by simp only [CompilationUnit.enumNamed?, hlanguage, h.enumNamed?]
  enumConstantArguments n := by
    simp only [CompilationUnit.enumConstantArguments, hlanguage, enumConstantArguments,
      h.argumentsOf]
  enumConstructorParameters n := by
    simp only [CompilationUnit.enumConstructorParameters, hlanguage, h.enumConstructorParameters]
  constantName n := by simp only [CompilationUnit.constantName, hlanguage, h.constantName]

end Java.CommentsApart

namespace Python.CommentsApart

variable {u : CompilationUnit} (h : CommentsApart u) (hlanguage : u.language = .python)
include h hlanguage

/-- So is a Python unit. -/
theorem renumbers : u.withoutComments.Renumbers u.tree.spokenId u where
  injective := u.tree.spokenId_strictMono.injective
  filePath := rfl
  location := u.tree.location_spoken
  ancestors := ancestors_spoken h.extras
  site? n := by simp only [CompilationUnit.site?, hlanguage, site?]
  sitesIn := CompilationUnit.sitesIn_spoken h.extras fun n => by
    simp only [CompilationUnit.site?, hlanguage, site?]
  arguments site := by simp only [CompilationUnit.arguments, hlanguage, h.arguments]
  receiver? site := by simp only [CompilationUnit.receiver?, hlanguage, h.receiver?]
  methodName? site := by simp only [CompilationUnit.methodName?, hlanguage, h.methodName?]
  invokedObjectType? site := by
    simp only [CompilationUnit.invokedObjectType?, hlanguage, h.invokedObjectType?]
  parameterTypes site := by simp only [CompilationUnit.parameterTypes, hlanguage, h.parameterTypes]
  enumClassName? site := by simp only [CompilationUnit.enumClassName?, hlanguage]
  expression n := by simp only [CompilationUnit.expression, hlanguage, h.expression]
  assignedSymbol? n := by simp only [CompilationUnit.assignedSymbol?, hlanguage, h.assignedSymbol?]
  initializer? s := by simp only [CompilationUnit.initializer?, hlanguage, h.initializer?]
  assignments s := by simp only [CompilationUnit.assignments, hlanguage, h.assignments]
  declaredType? s := by simp only [CompilationUnit.declaredType?, hlanguage, h.declaredType?]
  symbolScope s := by simp only [CompilationUnit.symbolScope, hlanguage, h.symbolScope]
  enclosingMethod? n := by
    simp only [CompilationUnit.enclosingMethod?, hlanguage, h.enclosingMethod?]
  enclosingScope n := by simp only [CompilationUnit.enclosingScope, hlanguage, h.enclosingScope]
  methodParameters n := by
    simp only [CompilationUnit.methodParameters, hlanguage, h.methodParameters]
  methodReturns n := by simp only [CompilationUnit.methodReturns, hlanguage, h.methodReturns]
  methodDefinition? site := by
    simp only [CompilationUnit.methodDefinition?, hlanguage, h.methodDefinition?]
  methodMatcher? n := by simp only [CompilationUnit.methodMatcher?, hlanguage, h.methodMatcher?]
  enumNamed? name := by simp only [CompilationUnit.enumNamed?, hlanguage, Option.map_none]
  enumConstantArguments n := by
    simp only [CompilationUnit.enumConstantArguments, hlanguage, List.map_nil]
  enumConstructorParameters n := by
    simp only [CompilationUnit.enumConstructorParameters, hlanguage]
  constantName n := by simp only [CompilationUnit.constantName, hlanguage, text_spoken]

end Python.CommentsApart

namespace CompilationUnit

variable {u : CompilationUnit}

variable (u) in
/-- No comment stands where the front end takes nodes as they come. -/
def CommentsApart : Prop :=
  match u.language with
  | .java => Java.CommentsApart u
  | .python => Python.CommentsApart u

namespace CommentsApart

theorem extras (h : u.CommentsApart) : u.tree.CommentsAreExtras := by
  unfold CommentsApart at h
  split at h <;> exact h.extras

theorem renumbers (h : u.CommentsApart) : u.withoutComments.Renumbers u.tree.spokenId u := by
  unfold CommentsApart at h
  split at h
  · next hlanguage => exact h.renumbers hlanguage
  · next hlanguage => exact h.renumbers hlanguage

theorem typeEndsWithin (h : u.CommentsApart) (steps : Nat) (n : NodeId) :
    u.typeEndsWithin steps (u.tree.spokenId n) = u.withoutComments.typeEndsWithin steps n := by
  unfold CommentsApart at h
  unfold CompilationUnit.typeEndsWithin
  cases hlanguage : u.language <;> simp only [hlanguage] at h ⊢
  · rw [h.expressionTypeWithin]
  · rw [h.qualifiedCalleeWithin]

theorem typeEndsWithin_of_isComment (h : u.CommentsApart) {c : NodeId}
    (hc : u.tree.isComment c = true) (steps : Nat) : u.typeEndsWithin (steps + 1) c = true := by
  unfold CommentsApart at h
  unfold CompilationUnit.typeEndsWithin
  cases hlanguage : u.language <;> simp only [hlanguage] at h ⊢
  · exact Java.CommentsApart.ends_of_isComment hc steps
  · exact h.ends_of_isComment hc steps

/-- The questions for types end in the one unit if they do in the other. -/
theorem typesEnd_iff (h : u.CommentsApart) : u.withoutComments.TypesEnd ↔ u.TypesEnd := by
  constructor
  · intro hends n
    cases hc : u.tree.isComment n with
    | true => exact ⟨1, h.typeEndsWithin_of_isComment hc 0⟩
    | false =>
      obtain ⟨i, rfl⟩ := u.tree.exists_spokenId_eq hc
      obtain ⟨steps, hsteps⟩ := hends i
      exact ⟨steps, by rwa [h.typeEndsWithin]⟩
  · intro hends n
    obtain ⟨steps, hsteps⟩ := hends (u.tree.spokenId n)
    exact ⟨steps, by rwa [← h.typeEndsWithin]⟩

end CommentsApart

end CompilationUnit

/-! ## Scans -/

/-- The scan of the unit without its comments. -/
def Scan.withoutComments (scan : Scan) : Scan := { scan with unit := scan.unit.withoutComments }

/-- **Comments do not change what is found**, unless one stands where the front end takes nodes as
they come: what is reported, the findings in the end, and how many stores and observers are left are
those of the scan without the comments.  And the one scan comes to an end if the other does. -/
theorem Scan.outcome_withoutComments (scan : Scan) (h : scan.unit.CommentsApart) :
    scan.withoutComments.outcome = scan.outcome ∧
      scan.withoutComments.run.reported = scan.run.reported ∧
      (scan.withoutComments.unit.TypesEnd ↔ scan.unit.TypesEnd) := by
  have hsites (n : NodeId) (hn : (!scan.unit.tree.isComment n) = false) :
      scan.unit.site? n = none :=
    CompilationUnit.site?_of_isComment (by simpa using hn)
  have hnodes := preorder_spoken h.extras root
  rw [spokenId_root h.extras] at hnodes
  exact ⟨(h.renumbers.outcome_eq scan.toScanner hsites hnodes).symm,
    (h.renumbers.reported_eq scan.toScanner hsites hnodes).symm, h.typesEnd_iff⟩

namespace Commented

/-- The rule that the argument of a call of `g` names an algorithm. -/
def rule : Rule where
  kind := .full
  matcher := { objectTypes := .any, methodNames := .oneOf ["g"], parameterTypes := .exactly ["*"] }
  parameters := [{ typeName := "*", role := .detectable .algorithm }]
  next := []
  action := none
  bundle := "Default"
  exactType := false

/-- The scan of a unit for that. -/
def scanOf (unit : CompilationUnit) : Scan where
  catalog := { rules := #[rule], earlier := by decide +kernel }
  roots := [0]
  unit := unit

/-- A unit of Python.  The comment stands after what is in the parentheses:

    k = ("a"
      "b"  # c
    )
    g(k)
-/
def afterParts : CompilationUnit where
  language := .python
  filePath := "m.py"
  tree :=
    { nodes := #[
        ⟨none, "module", true, none, ⟨1, 1, 0, 27⟩, "k = (\"a\"\n  \"b\"  # c\n)\ng(k)\n"⟩,
        ⟨some 0, "expression_statement", true, none, ⟨1, 1, 0, 21⟩, "k = (\"a\"\n  \"b\"  # c\n)"⟩,
        ⟨some 1, "assignment", true, none, ⟨1, 1, 0, 21⟩, "k = (\"a\"\n  \"b\"  # c\n)"⟩,
        ⟨some 2, "identifier", true, some "left", ⟨1, 1, 0, 1⟩, "k"⟩,
        ⟨some 2, "=", false, none, ⟨1, 3, 2, 3⟩, "="⟩,
        ⟨some 2, "parenthesized_expression", true, some "right", ⟨1, 5, 4, 21⟩,
          "(\"a\"\n  \"b\"  # c\n)"⟩,
        ⟨some 5, "(", false, none, ⟨1, 5, 4, 5⟩, "("⟩,
        ⟨some 5, "concatenated_string", true, none, ⟨1, 6, 5, 14⟩, "\"a\"\n  \"b\""⟩,
        ⟨some 7, "string", true, none, ⟨1, 6, 5, 8⟩, "\"a\""⟩,
        ⟨some 8, "string_start", true, none, ⟨1, 6, 5, 6⟩, "\""⟩,
        ⟨some 8, "string_content", true, none, ⟨1, 7, 6, 7⟩, "a"⟩,
        ⟨some 8, "string_end", true, none, ⟨1, 8, 7, 8⟩, "\""⟩,
        ⟨some 7, "string", true, none, ⟨2, 3, 11, 14⟩, "\"b\""⟩,
        ⟨some 12, "string_start", true, none, ⟨2, 3, 11, 12⟩, "\""⟩,
        ⟨some 12, "string_content", true, none, ⟨2, 4, 12, 13⟩, "b"⟩,
        ⟨some 12, "string_end", true, none, ⟨2, 5, 13, 14⟩, "\""⟩,
        ⟨some 5, "comment", true, none, ⟨2, 8, 16, 19⟩, "# c"⟩,
        ⟨some 5, ")", false, none, ⟨3, 1, 20, 21⟩, ")"⟩,
        ⟨some 0, "expression_statement", true, none, ⟨4, 1, 22, 26⟩, "g(k)"⟩,
        ⟨some 18, "call", true, none, ⟨4, 1, 22, 26⟩, "g(k)"⟩,
        ⟨some 19, "identifier", true, some "function", ⟨4, 1, 22, 23⟩, "g"⟩,
        ⟨some 19, "argument_list", true, some "arguments", ⟨4, 2, 23, 26⟩, "(k)"⟩,
        ⟨some 21, "(", false, none, ⟨4, 2, 23, 24⟩, "("⟩,
        ⟨some 21, "identifier", true, none, ⟨4, 3, 24, 25⟩, "k"⟩,
        ⟨some 21, ")", false, none, ⟨4, 4, 25, 26⟩, ")"⟩]
      parent_lt := by decide +kernel }

/-- A unit of Java.  The comment stands in front of an argument:

    class A { void m() { g(/* c */ "a"); } }
-/
def beforeArgument : CompilationUnit where
  language := .java
  filePath := "A.java"
  tree :=
    { nodes := #[
        ⟨none, "program", true, none, ⟨1, 1, 0, 40⟩,
          "class A \x7b void m() \x7b g(/* c */ \"a\"); \x7d \x7d"⟩,
        ⟨some 0, "class_declaration", true, none, ⟨1, 1, 0, 40⟩,
          "class A \x7b void m() \x7b g(/* c */ \"a\"); \x7d \x7d"⟩,
        ⟨some 1, "class", false, none, ⟨1, 1, 0, 5⟩, "class"⟩,
        ⟨some 1, "identifier", true, some "name", ⟨1, 7, 6, 7⟩, "A"⟩,
        ⟨some 1, "class_body", true, some "body", ⟨1, 9, 8, 40⟩,
          "\x7b void m() \x7b g(/* c */ \"a\"); \x7d \x7d"⟩,
        ⟨some 4, "\x7b", false, none, ⟨1, 9, 8, 9⟩, "\x7b"⟩,
        ⟨some 4, "method_declaration", true, none, ⟨1, 11, 10, 38⟩,
          "void m() \x7b g(/* c */ \"a\"); \x7d"⟩,
        ⟨some 6, "void_type", true, some "type", ⟨1, 11, 10, 14⟩, "void"⟩,
        ⟨some 6, "identifier", true, some "name", ⟨1, 16, 15, 16⟩, "m"⟩,
        ⟨some 6, "formal_parameters", true, some "parameters", ⟨1, 17, 16, 18⟩, "()"⟩,
        ⟨some 9, "(", false, none, ⟨1, 17, 16, 17⟩, "("⟩,
        ⟨some 9, ")", false, none, ⟨1, 18, 17, 18⟩, ")"⟩,
        ⟨some 6, "block", true, some "body", ⟨1, 20, 19, 38⟩, "\x7b g(/* c */ \"a\"); \x7d"⟩,
        ⟨some 12, "\x7b", false, none, ⟨1, 20, 19, 20⟩, "\x7b"⟩,
        ⟨some 12, "expression_statement", true, none, ⟨1, 22, 21, 36⟩, "g(/* c */ \"a\");"⟩,
        ⟨some 14, "method_invocation", true, none, ⟨1, 22, 21, 35⟩, "g(/* c */ \"a\")"⟩,
        ⟨some 15, "identifier", true, some "name", ⟨1, 22, 21, 22⟩, "g"⟩,
        ⟨some 15, "argument_list", true, some "arguments", ⟨1, 23, 22, 35⟩, "(/* c */ \"a\")"⟩,
        ⟨some 17, "(", false, none, ⟨1, 23, 22, 23⟩, "("⟩,
        ⟨some 17, "block_comment", true, none, ⟨1, 24, 23, 30⟩, "/* c */"⟩,
        ⟨some 17, "string_literal", true, none, ⟨1, 32, 31, 34⟩, "\"a\""⟩,
        ⟨some 20, "\"", false, none, ⟨1, 32, 31, 32⟩, "\""⟩,
        ⟨some 20, "string_fragment", true, none, ⟨1, 33, 32, 33⟩, "a"⟩,
        ⟨some 20, "\"", false, none, ⟨1, 34, 33, 34⟩, "\""⟩,
        ⟨some 17, ")", false, none, ⟨1, 35, 34, 35⟩, ")"⟩,
        ⟨some 14, ";", false, none, ⟨1, 36, 35, 36⟩, ";"⟩,
        ⟨some 12, "\x7d", false, none, ⟨1, 38, 37, 38⟩, "\x7d"⟩,
        ⟨some 4, "\x7d", false, none, ⟨1, 40, 39, 40⟩, "\x7d"⟩]
      parent_lt := by decide +kernel }

/-- A unit of Python.  The comment stands between the parts of a string:

    k = ("a"
      # c
      "b")
    g(k)
-/
def betweenParts : CompilationUnit where
  language := .python
  filePath := "m.py"
  tree :=
    { nodes := #[
        ⟨none, "module", true, none, ⟨1, 1, 0, 27⟩, "k = (\"a\"\n  # c\n  \"b\")\ng(k)\n"⟩,
        ⟨some 0, "expression_statement", true, none, ⟨1, 1, 0, 21⟩, "k = (\"a\"\n  # c\n  \"b\")"⟩,
        ⟨some 1, "assignment", true, none, ⟨1, 1, 0, 21⟩, "k = (\"a\"\n  # c\n  \"b\")"⟩,
        ⟨some 2, "identifier", true, some "left", ⟨1, 1, 0, 1⟩, "k"⟩,
        ⟨some 2, "=", false, none, ⟨1, 3, 2, 3⟩, "="⟩,
        ⟨some 2, "parenthesized_expression", true, some "right", ⟨1, 5, 4, 21⟩,
          "(\"a\"\n  # c\n  \"b\")"⟩,
        ⟨some 5, "(", false, none, ⟨1, 5, 4, 5⟩, "("⟩,
        ⟨some 5, "concatenated_string", true, none, ⟨1, 6, 5, 20⟩, "\"a\"\n  # c\n  \"b\""⟩,
        ⟨some 7, "string", true, none, ⟨1, 6, 5, 8⟩, "\"a\""⟩,
        ⟨some 8, "string_start", true, none, ⟨1, 6, 5, 6⟩, "\""⟩,
        ⟨some 8, "string_content", true, none, ⟨1, 7, 6, 7⟩, "a"⟩,
        ⟨some 8, "string_end", true, none, ⟨1, 8, 7, 8⟩, "\""⟩,
        ⟨some 7, "comment", true, none, ⟨2, 3, 11, 14⟩, "# c"⟩,
        ⟨some 7, "string", true, none, ⟨3, 3, 17, 20⟩, "\"b\""⟩,
        ⟨some 13, "string_start", true, none, ⟨3, 3, 17, 18⟩, "\""⟩,
        ⟨some 13, "string_content", true, none, ⟨3, 4, 18, 19⟩, "b"⟩,
        ⟨some 13, "string_end", true, none, ⟨3, 5, 19, 20⟩, "\""⟩,
        ⟨some 5, ")", false, none, ⟨3, 6, 20, 21⟩, ")"⟩,
        ⟨some 0, "expression_statement", true, none, ⟨4, 1, 22, 26⟩, "g(k)"⟩,
        ⟨some 18, "call", true, none, ⟨4, 1, 22, 26⟩, "g(k)"⟩,
        ⟨some 19, "identifier", true, some "function", ⟨4, 1, 22, 23⟩, "g"⟩,
        ⟨some 19, "argument_list", true, some "arguments", ⟨4, 2, 23, 26⟩, "(k)"⟩,
        ⟨some 21, "(", false, none, ⟨4, 2, 23, 24⟩, "("⟩,
        ⟨some 21, "identifier", true, none, ⟨4, 3, 24, 25⟩, "k"⟩,
        ⟨some 21, ")", false, none, ⟨4, 4, 25, 26⟩, ")"⟩]
      parent_lt := by decide +kernel }

end Commented

set_option maxRecDepth 100000 in
/-- In either language the algorithm is found, with the comment as without it. -/
theorem Scan.outcome_commented :
    (Commented.afterParts.CommentsApart ∧ Commented.afterParts.tree.isComment 16 = true ∧
      (Commented.scanOf Commented.afterParts).outcome.findings.map Finding.displays = [["ab"]] ∧
      (Commented.scanOf Commented.afterParts).withoutComments.outcome =
        (Commented.scanOf Commented.afterParts).outcome) ∧
    (Commented.beforeArgument.CommentsApart ∧
      Commented.beforeArgument.tree.isComment 19 = true ∧
      (Commented.scanOf Commented.beforeArgument).outcome.findings.map Finding.displays = [["a"]] ∧
      (Commented.scanOf Commented.beforeArgument).withoutComments.outcome =
        (Commented.scanOf Commented.beforeArgument).outcome) := by
  have hpython : Commented.afterParts.CommentsApart :=
    { extras := by decide +kernel
      kind_eq := by decide +kernel
      concatenated := by decide +kernel
      parenthesized := by decide +kernel }
  have hjava : Commented.beforeArgument.CommentsApart :=
    { extras := by decide +kernel
      names := by decide +kernel
      superclass := by decide +kernel
      interfaces := by decide +kernel
      generic := by decide +kernel
      annotated := by decide +kernel
      spread := by decide +kernel }
  exact ⟨⟨hpython, by decide +kernel, by decide +kernel,
      (Scan.outcome_withoutComments (Commented.scanOf Commented.afterParts) hpython).1⟩,
    ⟨hjava, by decide +kernel, by decide +kernel,
      (Scan.outcome_withoutComments (Commented.scanOf Commented.beforeArgument) hjava).1⟩⟩

set_option maxRecDepth 100000 in
/-- Between the parts of a string a comment does change what is found: without it the algorithm is
found, and with it nothing is. -/
theorem Scan.not_findings_withoutComments : ¬ ∀ scan : Scan, scan.unit.tree.CommentsAreExtras →
    scan.outcome.findings = scan.withoutComments.outcome.findings := by
  intro h
  have hextras : Commented.betweenParts.tree.CommentsAreExtras := by decide +kernel
  have hlength := congrArg List.length (h (Commented.scanOf Commented.betweenParts) hextras)
  exact absurd hlength (by decide +kernel)

end CryptoUsage
