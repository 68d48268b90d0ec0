import CryptoUsage.Program.ObjectType
import CryptoUsage.Program.Unit

/-!
# Names of Java types

A type is written in a unit by a short name, a full name, with type arguments, annotations or
array brackets.  `typeText` reads off the name and the brackets, and `qualify` finds the full name
through the imports, the declarations of the unit and `java.lang`.  What none of them knows stays
as it is: there is no class path.

The supertypes of a declared type are collected through the unit's own declarations, depth first
and each name once.

## What is here

* Nodes.  What a category of nodes is called in the grammar, which nodes are comments, and which
  children count.
* Brackets.  A name is split into its base and its array brackets, so that only the base is looked
  up.
* `qualify`: an import comes before a declaration of the unit, and that before `java.lang`; names
  with a dot and primitive types stay as they are.
* `collectSupertypes` goes from a declaration to those it extends or implements, up to
  `maxSupertypeLevels` of them in a row, and adds no name that was found before.
  `declaredObjectType` and `objectTypeNamed` make object types of a declaration and of a name,
  with what is collected.
-/

set_option autoImplicit false

namespace CryptoUsage
namespace Java

variable (u : CompilationUnit)

/-- Whether a node belongs to a category. -/
def isIn (category : Category) (n : NodeId) : Bool := category.holds .java (u.tree.kind n)

/-- Whether the characters end in `suffix`. -/
def endsIn (suffix s : String) : Bool := suffix.toList.isSuffixOf s.toList

/-- Whether a node is a comment. -/
def isComment (n : NodeId) : Bool := endsIn "comment" (u.tree.kind n)

/-- The named children of a node that are not comments. -/
def expressionsOf (n : NodeId) : List NodeId :=
  (u.tree.namedChildren n).filter fun c => !isComment u c

/-- The number of opening brackets directly under a node. -/
def bracketCount (n : NodeId) : Nat := (u.tree.children n).countP fun c => u.tree.kind c == "["

/-- As many pairs of array brackets. -/
def brackets (rank : Nat) : String := String.join (List.replicate rank "[]")

/-- The length of the longest run of array brackets that ends a reversed name. -/
def reversedBracketRun : List Char → Nat
  | ']' :: '[' :: cs => reversedBracketRun cs + 2
  | _ => 0

/-- A name without its array brackets, and the brackets. -/
def splitBrackets (name : String) : String × String :=
  let cs := name.toList
  let base := cs.length - reversedBracketRun cs.reverse
  (String.ofList (cs.take base), String.ofList (cs.drop base))

/-- The nearest type declaration above a node. -/
def enclosingType? (n : NodeId) : Option NodeId :=
  (u.tree.ancestors n).find? (isIn u .typeDeclaration)

/-- The first type the unit declares with the simple name of `name`. -/
def typeNamed? (name : String) : Option NodeId :=
  u.declarations.lookup (Text.simpleName name)

/-- The first enum the unit declares with the simple name of `name`. -/
def enumNamed? (name : String) : Option NodeId :=
  (u.declarations.find? fun (declared, n) =>
    declared == Text.simpleName name && u.tree.kind n == "enum_declaration").map Prod.snd

/-- The name in a type: without type arguments and annotations, with array brackets.  Every step
goes to a child, so `height` bounds the number of steps. -/
def typeTextWithin : Nat → NodeId → String
  | 0, n => u.tree.text n
  | height + 1, n =>
    match u.tree.kind n with
    | "generic_type" =>
      match u.tree.namedChildren n with
      | base :: _ => typeTextWithin height base
      | [] => u.tree.text n
    | "array_type" =>
      let element := ((u.tree.child? n "element").map (typeTextWithin height)).getD ""
      let rank := ((u.tree.child? n "dimensions").map (bracketCount u)).getD 1
      element ++ brackets (max rank 1)
    | "annotated_type" =>
      match (u.tree.namedChildren n).getLast? with
      | some inner => typeTextWithin height inner
      | none => u.tree.text n
    | _ => u.tree.text n

/-- The name in a type. -/
def typeText (n : NodeId) : String := typeTextWithin u u.tree.size n

/-- The primitive types, and `void`. -/
def primitives : List String :=
  ["byte", "short", "int", "long", "float", "double", "boolean", "char", "void"]

/-- The types of `java.lang` that are known without an import. -/
def languageTypes : List String :=
  ["String", "Object", "Integer", "Long", "Short", "Byte", "Boolean", "Character", "Double",
    "Float", "Number", "Math", "System", "StringBuilder", "CharSequence", "Enum", "Class"]

/-- The full name of a type.  An import comes before a declaration of the unit, and that before
`java.lang`. -/
def qualify (name : String) : String :=
  let (base, suffix) := splitBrackets name
  if base.isEmpty || Text.isQualified base || primitives.contains base then name
  else
    match u.imports.get? base with
    | some full => full ++ suffix
    | none =>
      if (typeNamed? u base).isSome then
        match u.package with
        | some package => package ++ "." ++ name
        | none => name
      else if languageTypes.contains base then "java.lang." ++ name
      else name

/-- The types that a declaration extends or implements, as written. -/
def directSupertypes (declaration : NodeId) : List NodeId :=
  let extended :=
    match u.tree.child? declaration "superclass" with
    | some superclass => u.tree.namedChildren superclass
    | none => []
  let clauses := (u.tree.namedChildren declaration).filter fun c =>
    u.tree.kind c == "super_interfaces" || u.tree.kind c == "extends_interfaces"
  extended ++ (clauses.flatMap u.tree.namedChildren).flatMap u.tree.namedChildren

/-- How many declarations a line of inheritance is followed through. -/
def maxSupertypeLevels : Nat := 9

/-- The names in `found`, followed by the names of the supertypes of `declaration` that are not
among them, each followed by its own supertypes if the unit declares it. -/
def collectSupertypes : Nat → List String → NodeId → List String
  | 0, found, _ => found
  | levels + 1, found, declaration =>
    (directSupertypes u declaration).foldl
      (fun found typeNode =>
        let written := typeText u typeNode
        let name := qualify u written
        if found.contains name then found
        else if u.imports.binds written then found ++ [name]
        else
          match typeNamed? u written with
          | some parent => collectSupertypes levels (found ++ [name]) parent
          | none => found ++ [name])
      found

/-- The type that a declaration declares. -/
def declaredObjectType (declaration : NodeId) : ObjectType :=
  let name := ((u.tree.child? declaration "name").map u.tree.text).getD ""
  { name := qualify u name
    supertypes := collectSupertypes u maxSupertypeLevels [] declaration }

/-- The type that a name written in the unit stands for. -/
def objectTypeNamed (name : String) : ObjectType :=
  let (base, suffix) := splitBrackets name
  if suffix.isEmpty && !Text.isQualified base && !u.imports.binds base then
    match typeNamed? u base with
    | some declaration => declaredObjectType u declaration
    | none => { name := qualify u name }
  else { name := qualify u name }

end Java
end CryptoUsage
