import CryptoUsage.Text.CaseMapping

/-!
# Languages and the kinds of their nodes

Units are written in one of two languages.  What the two grammars call their nodes differs, so the
nodes that play a common part are gathered in categories; `Category.kinds` lists the grammar's
names for each.

## What is here

* `Language`, and the two ways to name one: by a name that a user gives, and by the extension of a
  file, in any case (`ofName?`, `ofExtension?`).
* `Category` has the parts that nodes can play: the literals of each kind, identifiers, calls,
  constructions, declarations of functions and types, assignments and others.  `javaKinds` and
  `pythonKinds` list the names that the grammars have for each; a list may be empty, as that of
  constructions is in Python.
* `Category.holds` asks whether the kind of a node belongs to a category of its language, which is
  how the adapters recognize nodes.
-/

set_option autoImplicit false

namespace CryptoUsage

/-- The languages whose units can be analysed. -/
inductive Language where
  | java
  | python
deriving DecidableEq, Repr

namespace Language

/-- The language a user names, in any case. -/
def ofName? (name : String) : Option Language :=
  match Text.toLowercase name with
  | "java" => some java
  | "python" | "py" => some python
  | _ => none

/-- The language of files with the given extension, in any case. -/
def ofExtension? (extension : String) : Option Language :=
  match Text.toLowercase extension with
  | "java" => some java
  | "py" | "pyi" => some python
  | _ => none

end Language

/-- The parts that nodes of both grammars can play. -/
inductive Category where
  | integerLiteral
  | floatLiteral
  | stringLiteral
  | booleanLiteral
  | nullLiteral
  | identifier
  | invocation
  | construction
  | memberAccess
  | arrayCreation
  | parenthesized
  | cast
  | unaryExpression
  | functionDeclaration
  | typeDeclaration
  | assignment
  | returnStatement
deriving DecidableEq, Repr

namespace Category

/-- Every category, in the order of declaration. -/
def all : List Category :=
  [integerLiteral, floatLiteral, stringLiteral, booleanLiteral, nullLiteral, identifier, invocation,
    construction, memberAccess, arrayCreation, parenthesized, cast, unaryExpression,
    functionDeclaration, typeDeclaration, assignment, returnStatement]

/-- The node kinds of the Java grammar in a category. -/
def javaKinds : Category → List String
  | integerLiteral =>
    ["decimal_integer_literal", "hex_integer_literal", "octal_integer_literal",
      "binary_integer_literal"]
  | floatLiteral => ["decimal_floating_point_literal", "hex_floating_point_literal"]
  | stringLiteral => ["string_literal", "character_literal", "text_block"]
  | booleanLiteral => ["true", "false"]
  | nullLiteral => ["null_literal"]
  | identifier => ["identifier"]
  | invocation => ["method_invocation"]
  | construction => ["object_creation_expression"]
  | memberAccess => ["field_access"]
  | arrayCreation => ["array_creation_expression", "array_initializer"]
  | parenthesized => ["parenthesized_expression"]
  | cast => ["cast_expression"]
  | unaryExpression => ["unary_expression"]
  | functionDeclaration =>
    ["method_declaration", "constructor_declaration", "compact_constructor_declaration"]
  | typeDeclaration =>
    ["class_declaration", "interface_declaration", "enum_declaration", "record_declaration"]
  | assignment => ["assignment_expression"]
  | returnStatement => ["return_statement"]

/-- The node kinds of the Python grammar in a category.  A construction is written like any other
call there, so no kind is set apart for it, and there are no casts. -/
def pythonKinds : Category → List String
  | integerLiteral => ["integer"]
  | floatLiteral => ["float"]
  | stringLiteral => ["string", "concatenated_string"]
  | booleanLiteral => ["true", "false"]
  | nullLiteral => ["none"]
  | identifier => ["identifier"]
  | invocation => ["call"]
  | construction => []
  | memberAccess => ["attribute"]
  | arrayCreation => ["list", "tuple"]
  | parenthesized => ["parenthesized_expression"]
  | cast => []
  | unaryExpression => ["unary_operator"]
  | functionDeclaration => ["function_definition"]
  | typeDeclaration => ["class_definition"]
  | assignment => ["assignment"]
  | returnStatement => ["return_statement"]

/-- The node kinds of a language in a category. -/
def kinds (language : Language) (category : Category) : List String :=
  match language with
  | .java => category.javaKinds
  | .python => category.pythonKinds

/-- Whether a node kind of the language belongs to the category. -/
def holds (language : Language) (category : Category) (kind : String) : Bool :=
  (category.kinds language).contains kind

/-- Whether a node kind of the language is some kind of literal. -/
def isLiteral (language : Language) (kind : String) : Bool :=
  [integerLiteral, floatLiteral, stringLiteral, booleanLiteral, nullLiteral].any
    fun category => category.holds language kind

end Category

end CryptoUsage
