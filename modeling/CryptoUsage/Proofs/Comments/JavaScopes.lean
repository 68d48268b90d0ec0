import CryptoUsage.FrontEnd.JavaScopes
import CryptoUsage.Proofs.Comments.JavaNames
import CryptoUsage.Proofs.Renumbering.Unit

/-!
# Scopes of Java variables without the comments

A name in Java is looked up from the inside out: in the blocks around it up to where it stands,
among the parameters of a method or a lambda, in loops and clauses, and among the fields and
constants of a type.  This file shows that an identifier stands for the same variable when the
comments are gone, up to the number of the node that declares it.

## What is here

* Each kind of place on its own: `localInBlock?`, `methodParameters`, `lambdaParameter?`,
  `fieldInBody?` and `enumConstantInBody?`.  They search a list of children for one that passes a
  test, and a comment passes none of the tests (`parameterName?_of_isComment` for parameters).
  The parameters of a lambda are the exception: any child with the right text is taken.  There the
  hypothesis is that no comment reads like the name, and `text_ne` gives it for a name that an
  identifier has.
* `declaredIn?` puts them together, one case for each construct, and `resolveIdentifier?` goes
  along the ancestors, which are the same nodes in both trees.
* Members of types that are named: `memberOfType?`, `thisField?`, `staticMember?` and
  `enumSelection?`.  For the latter two it matters whether an identifier stands for a variable;
  `isVariable` and `isNoVariable` say that this too is the same.
* The node within which a variable is assigned to (`symbolScope`).
-/

set_option autoImplicit false

namespace CryptoUsage
namespace Java
namespace CommentsApart

open SyntaxTree

variable {u : CompilationUnit} (h : CommentsApart u)
include h

/-! ## Declarations -/

theorem isNamedAs (name : String) (n : NodeId) :
    Java.isNamedAs u name (u.tree.spokenId n) = Java.isNamedAs u.withoutComments name n := by
  simp only [Java.isNamedAs, child?_spoken h.extras]
  cases u.tree.withoutComments.child? n "name" with
  | none => rfl
  | some c => simp

theorem declaratorNamed? (name : String) (n : NodeId) :
    Java.declaratorNamed? u name (u.tree.spokenId n) =
      (Java.declaratorNamed? u.withoutComments name n).map u.tree.spokenId := by
  simp [Java.declaratorNamed?, childrenIn_spoken h.extras, List.find?_map, Function.comp_def,
    h.isNamedAs]

theorem localInBlock? (name : String) (n : NodeId) (position : Nat) :
    Java.localInBlock? u name (u.tree.spokenId n) position =
      (Java.localInBlock? u.withoutComments name n position).map
        (Symbol.renumber u.tree.spokenId) := by
  have hdeclarators := filterMap_spoken
    (f := fun statement => if u.tree.kind statement == "local_variable_declaration" then
      Java.declaratorNamed? u name statement else none)
    (takeWhile_namedChildren_spoken h.extras n position) fun c hc => by
      rw [kind_beq_of_isComment hc (by decide)]
      rfl
  have hmap (c : NodeId) : (if u.tree.withoutComments.kind c == "local_variable_declaration" then
      (Java.declaratorNamed? u.withoutComments name c).map u.tree.spokenId else none) =
      (if u.tree.withoutComments.kind c == "local_variable_declaration" then
        Java.declaratorNamed? u.withoutComments name c else none).map u.tree.spokenId := by
    split <;> rfl
  simp only [Java.localInBlock?, hdeclarators, kind_spoken, h.declaratorNamed?, hmap,
    ← List.map_filterMap, List.getLast?_map, Option.map_map]
  rfl

theorem parameterName? (n : NodeId) : Java.parameterName? u (u.tree.spokenId n) =
    (Java.parameterName? u.withoutComments n).map u.tree.spokenId := by
  simp only [Java.parameterName?, kind_spoken, child?_spoken h.extras,
    find?_spoken (p := fun c => u.tree.kind c == "variable_declarator")
      (namedChildren_spoken h.extras n) fun c hc => kind_beq_of_isComment hc (by decide)]
  split
  · rfl
  · cases (u.tree.withoutComments.namedChildren n).find? fun c =>
      u.tree.withoutComments.kind c == "variable_declarator" with
    | none => rfl
    | some c => exact child?_spoken h.extras c "name"
  · rfl

omit h in
theorem parameterName?_of_isComment {c : NodeId} (hc : u.tree.isComment c = true) :
    Java.parameterName? u c = none := by
  unfold Java.parameterName?
  split
  case h_1 hkind | h_2 hkind =>
    exact absurd hkind (kind_ne_of_isComment hc (by decide))
  · rfl

theorem methodParameters (n : NodeId) : Java.methodParameters u (u.tree.spokenId n) =
    (Java.methodParameters u.withoutComments n).map (Symbol.renumber u.tree.spokenId) := by
  simp only [Java.methodParameters, child?_spoken h.extras]
  cases u.tree.withoutComments.child? n "parameters" with
  | none => rfl
  | some parameters =>
    simp only [Option.map_some]
    rw [filterMap_spoken (namedChildren_spoken h.extras parameters) fun c hc => by
      rw [parameterName?_of_isComment hc]; rfl, List.map_filterMap]
    refine List.filterMap_congr fun c _ => ?_
    rw [h.parameterName?, Option.map_map, Option.map_map]
    simp [Function.comp_def, Symbol.renumber]

/-- No comment is mistaken for a parameter that goes by the name of an identifier. -/
theorem text_ne {n c : NodeId} (hn : u.tree.kind n = "identifier")
    (hc : u.tree.isComment c = true) : u.tree.text c ≠ u.tree.text n :=
  h.names c (lt_size_of_isComment hc) hc n (u.tree.lt_size_of_kind_ne (by rw [hn]; decide)) hn

theorem lambdaParameter? {name : String}
    (hname : ∀ c, u.tree.isComment c = true → u.tree.text c ≠ name) (n : NodeId) :
    Java.lambdaParameter? u name (u.tree.spokenId n) =
      (Java.lambdaParameter? u.withoutComments name n).map (Symbol.renumber u.tree.spokenId) := by
  have hchild := child?_spoken h.extras n "parameters"
  cases hparameters : u.tree.withoutComments.child? n "parameters" with
  | none =>
    rw [hparameters] at hchild
    simp [Java.lambdaParameter?, hchild, hparameters]
  | some parameters =>
    rw [hparameters] at hchild
    have hinferred := find?_spoken (p := fun n => u.tree.text n == name)
      (namedChildren_spoken h.extras parameters) fun c hc => beq_false_of_ne (hname c hc)
    have hformal := filterMap_spoken (f := fun p => u.tree.child? p "name")
      (namedChildren_spoken h.extras parameters) fun c hc => by
        rw [child?, h.extras.children_eq_nil hc, List.find?_nil]
    simp only [child?_spoken h.extras, ← List.map_filterMap] at hformal
    simp only [Java.lambdaParameter?, hchild, hparameters, Option.map_some, Option.bind_eq_bind,
      Option.bind_some, kind_spoken]
    split
    · simp only [List.find?_singleton, text_spoken]
      split <;> simp [Symbol.renumber]
    · rw [hinferred]
      simp [Option.map_bind, Option.bind_map, Function.comp_def, Symbol.renumber]
    · simp only [hformal, List.find?_map, Option.map_bind, Option.bind_map, Function.comp_def,
        text_spoken]
      rfl

theorem fieldInBody? (name : String) (n : NodeId) :
    Java.fieldInBody? u name (u.tree.spokenId n) =
      (Java.fieldInBody? u.withoutComments name n).map (Symbol.renumber u.tree.spokenId) := by
  have hfields := filter_spoken (p := fun m => u.tree.kind m == "field_declaration" ||
      u.tree.kind m == "constant_declaration") (namedChildren_spoken h.extras n) fun c hc => by
    rw [kind_beq_of_isComment hc (by decide), kind_beq_of_isComment hc (by decide), Bool.or_false]
  simp [Java.fieldInBody?, hfields, List.findSome?_map, Function.comp_def, h.declaratorNamed?,
    Symbol.renumber]

theorem enumConstantInBody? (name : String) (n : NodeId) :
    Java.enumConstantInBody? u name (u.tree.spokenId n) =
      (Java.enumConstantInBody? u.withoutComments name n).map
        (Symbol.renumber u.tree.spokenId) := by
  have hconstant := find?_spoken (p := fun c => u.tree.kind c == "enum_constant" &&
      Java.isNamedAs u name c) (namedChildren_spoken h.extras n) fun c hc => by
    rw [kind_beq_of_isComment hc (by decide), Bool.false_and]
  simp [Java.enumConstantInBody?, hconstant, Function.comp_def, h.isNamedAs, Symbol.renumber]

/-! ## Looking up -/

theorem declaredIn? {name : String}
    (hname : ∀ c, u.tree.isComment c = true → u.tree.text c ≠ name) (position : Nat) (n : NodeId) :
    Java.declaredIn? u name position (u.tree.spokenId n) =
      (Java.declaredIn? u.withoutComments name position n).map
        (Symbol.renumber u.tree.spokenId) := by
  have hcatch := find?_spoken (p := fun c => u.tree.kind c == "catch_formal_parameter")
    (namedChildren_spoken h.extras n) fun c hc => kind_beq_of_isComment hc (by decide)
  simp only [Java.declaredIn?, kind_spoken, h.localInBlock?, child?_spoken h.extras, hcatch,
    h.lambdaParameter? hname, h.methodParameters, h.fieldInBody?, h.enumConstantInBody?]
  split
  case h_1 | h_2 | h_3 | h_7 | h_11 | h_12 | h_13 | h_14 | h_15 => rfl
  case h_4 =>
    simp [h.declaratorNamed?, Option.bind_map, Option.map_bind, Function.comp_def, Symbol.renumber]
  case h_5 =>
    cases u.tree.withoutComments.child? n "name" with
    | none => rfl
    | some c => by_cases hc : u.tree.withoutComments.text c = name <;>
        simp [Option.filter_some, hc, Symbol.renumber]
  case h_6 =>
    cases (u.tree.withoutComments.namedChildren n).find? fun c =>
        u.tree.withoutComments.kind c == "catch_formal_parameter" with
    | none => rfl
    | some c => by_cases hc : Java.isNamedAs u.withoutComments name c <;>
        simp [Option.filter_some, hc, h.isNamedAs, Symbol.renumber]
  all_goals simp [List.find?_map, Function.comp_def]

/-- An identifier stands for the same variable. -/
theorem resolveIdentifier? {n : NodeId} (hkind : u.tree.withoutComments.kind n = "identifier") :
    Java.resolveIdentifier? u (u.tree.spokenId n) =
      (Java.resolveIdentifier? u.withoutComments n).map (Symbol.renumber u.tree.spokenId) := by
  have hname (c : NodeId) (hc : u.tree.isComment c = true) :=
    h.text_ne (n := u.tree.spokenId n) (by rw [kind_spoken, hkind]) hc
  rw [text_spoken] at hname
  simp only [Java.resolveIdentifier?, Java.lookup?, ancestors_spoken h.extras, text_spoken,
    location_spoken, List.findSome?_map, List.map_findSome?, Function.comp_def,
    h.declaredIn? hname]

/-- Whether a node is an identifier that stands for a variable. -/
theorem isVariable (n : NodeId) :
    (u.tree.withoutComments.kind n == "identifier" &&
        (Java.resolveIdentifier? u (u.tree.spokenId n)).isSome) =
      (u.tree.withoutComments.kind n == "identifier" &&
        (Java.resolveIdentifier? u.withoutComments n).isSome) := by
  by_cases hkind : u.tree.withoutComments.kind n = "identifier"
  · rw [h.resolveIdentifier? hkind, Option.isSome_map]
  · rw [beq_false_of_ne hkind, Bool.false_and, Bool.false_and]

/-- Whether a node is an identifier that stands for no variable. -/
theorem isNoVariable (n : NodeId) :
    (u.tree.withoutComments.kind n == "identifier" &&
        (Java.resolveIdentifier? u (u.tree.spokenId n)).isNone) =
      (u.tree.withoutComments.kind n == "identifier" &&
        (Java.resolveIdentifier? u.withoutComments n).isNone) := by
  by_cases hkind : u.tree.withoutComments.kind n = "identifier"
  · rw [h.resolveIdentifier? hkind, Option.isNone_map]
  · rw [beq_false_of_ne hkind, Bool.false_and, Bool.false_and]

/-! ## Members -/

theorem enumMemberLists (n : NodeId) : Java.enumMemberLists u (u.tree.spokenId n) =
    (Java.enumMemberLists u.withoutComments n).map u.tree.spokenId := by
  rw [Java.enumMemberLists, filter_spoken (namedChildren_spoken h.extras n) fun c hc =>
    kind_beq_of_isComment hc (by decide)]
  simp [Java.enumMemberLists]

theorem memberOfType? (name : String) (n : NodeId) :
    Java.memberOfType? u name (u.tree.spokenId n) =
      (Java.memberOfType? u.withoutComments name n).map (Symbol.renumber u.tree.spokenId) := by
  simp only [Java.memberOfType?, child?_spoken h.extras,
    Option.bind_eq_bind]
  cases u.tree.withoutComments.child? n "body" with
  | none => rfl
  | some body =>
    simp only [Option.map_some, Option.bind_some, kind_spoken, h.enumConstantInBody?,
      h.enumMemberLists, h.fieldInBody?, List.findSome?_map, Function.comp_def]
    by_cases hkind : u.tree.withoutComments.kind body == "enum_body"
    · rw [if_pos hkind, if_pos hkind]
      cases Java.enumConstantInBody? u.withoutComments name body with
      | none => exact List.map_findSome?.symm
      | some constant => rfl
    · rw [if_neg hkind, if_neg hkind]

/-- The members of a type are the same but for the comments. -/
theorem typeMembers (n : NodeId) :
    (Java.typeMembers u (u.tree.spokenId n)).filter (fun c => !u.tree.isComment c) =
      (Java.typeMembers u.withoutComments n).map u.tree.spokenId := by
  simp only [Java.typeMembers, child?_spoken h.extras]
  cases u.tree.withoutComments.child? n "body" with
  | none => rfl
  | some body =>
    simp only [Option.map_some, kind_spoken, h.enumMemberLists]
    by_cases hkind : u.tree.withoutComments.kind body == "enum_body"
    · simp only [if_pos hkind, List.filter_flatMap, List.flatMap_map, List.map_flatMap,
        namedChildren_spoken h.extras]
    · rw [if_neg hkind, if_neg hkind, namedChildren_spoken h.extras]

theorem thisField? (name : String) (n : NodeId) :
    Java.thisField? u name (u.tree.spokenId n) =
      (Java.thisField? u.withoutComments name n).map (Symbol.renumber u.tree.spokenId) := by
  simp only [Java.thisField?, h.enclosingType?, Option.bind_map, Option.map_bind,
    Function.comp_def, h.memberOfType?]

theorem enumSelection? (n : NodeId) : Java.enumSelection? u (u.tree.spokenId n) =
    (Java.enumSelection? u.withoutComments n).map (Prod.map u.tree.spokenId u.tree.spokenId) := by
  simp only [Java.enumSelection?, child?_spoken h.extras,
    Option.bind_eq_bind, Option.bind_map, Option.map_bind, Function.comp_def, kind_spoken,
    text_spoken, h.isVariable, h.enumNamed?, h.enumConstantInBody?]
  rfl

theorem staticMember? (n : NodeId) (field : String) :
    Java.staticMember? u (u.tree.spokenId n) field =
      (Java.staticMember? u.withoutComments n field).map (Symbol.renumber u.tree.spokenId) := by
  simp only [Java.staticMember?, Option.bind_eq_bind,
    Option.bind_map, Option.map_bind, Function.comp_def, kind_spoken, text_spoken,
    h.isNoVariable, h.typeNamed?, h.memberOfType?]

/-! ## Scopes -/

theorem enclosingMethod? (n : NodeId) : Java.enclosingMethod? u (u.tree.spokenId n) =
    (Java.enclosingMethod? u.withoutComments n).map u.tree.spokenId := by
  simp [Java.enclosingMethod?, ancestors_spoken h.extras, List.find?_map, Function.comp_def]

theorem enclosingScope (n : NodeId) : Java.enclosingScope u (u.tree.spokenId n) =
    u.tree.spokenId (Java.enclosingScope u.withoutComments n) := by
  rw [Java.enclosingScope, Java.enclosingScope, ← getD_root_spoken h.extras, h.enclosingMethod?,
    h.enclosingType?]
  cases Java.enclosingMethod? u.withoutComments n <;> rfl

theorem symbolScope (s : Symbol) : Java.symbolScope u (s.renumber u.tree.spokenId) =
    u.tree.spokenId (Java.symbolScope u.withoutComments s) := by
  simp only [Java.symbolScope, Symbol.kind_renumber, Symbol.declaration_renumber,
    h.enclosingScope, h.enclosingMethod?, h.enclosingType?, getD_root_spoken h.extras]
  split <;> rfl

end CommentsApart
end Java
end CryptoUsage
