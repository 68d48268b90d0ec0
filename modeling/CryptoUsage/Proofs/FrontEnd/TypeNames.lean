import CryptoUsage.FrontEnd.JavaNames

/-!
# Names of types

The full name of a type ends in the simple name of what is written (`Java.simpleName_qualify`):
what is imported is known by the last part of its path, packages come in front, and array brackets
stay where they are.  Types whose full names are equal are therefore looked for under one name
among the declarations of a unit, which is how two supertypes with the same full name come to lead
to one declaration.

## What is here

* Dotted names.  A name is split at its last dot, if it has one (`splitQualified?_eq_some_iff`),
  and the simple name is what is behind it, whatever stands in front (`simpleName_append`).
* Imports.  A Java import binds a name to a path that ends in it, so that every binding of a unit
  has that form (`splitQualified?_of_get?_ofJava`, by induction on the imports).  In particular a
  name with a dot in it is bound by none of them (`binds_eq_false_of_isQualified`).
* Brackets.  A name is its base followed by its brackets, and there is no dot in brackets
  (`splitBrackets_append`, `isQualified_splitBrackets_snd`).
* Full names.  `qualify` goes through the cases: an import, a declaration of the unit, a type of
  `java.lang`, or the name as it stands.  Each puts something in front of the base or nothing, and
  the brackets go back to the end.
-/

set_option autoImplicit false

namespace CryptoUsage

/-! ## Dotted names -/

namespace Text

variable {name front back : String}

theorem splitQualified?_eq_some_iff : splitQualified? name = some (front, back) ↔
    name = front ++ "." ++ back ∧ isQualified back = false := by
  have hdot : isQualified back = false ↔ '.' ∉ back.toList := by simp [isQualified]
  have hname : name = front ++ "." ++ back ↔ name.toList = front.toList ++ '.' :: back.toList := by
    rw [← String.toList_inj]
    simp
  rw [hdot, hname, ← splitLast?_eq_some_iff, splitQualified?, Option.map_eq_some_iff]
  constructor
  · rintro ⟨⟨front', back'⟩, hsplit, heq⟩
    obtain ⟨rfl, rfl⟩ := Prod.mk.inj heq
    simpa using hsplit
  · exact fun hsplit => ⟨_, hsplit, by simp⟩

theorem splitQualified?_eq_none_iff : splitQualified? name = none ↔ isQualified name = false := by
  rw [splitQualified?, Option.map_eq_none_iff, splitLast?_eq_none_iff, isQualified]
  simp

theorem simpleName_of_splitQualified? (h : splitQualified? name = some (front, back)) :
    simpleName name = back := by
  rw [simpleName, h]

theorem simpleName_eq_self (h : isQualified name = false) : simpleName name = name := by
  rw [simpleName, splitQualified?_eq_none_iff.mpr h]

/-- What is in front of an unqualified name does not count. -/
theorem simpleName_append (h : isQualified back = false) :
    simpleName (front ++ "." ++ back) = back :=
  simpleName_of_splitQualified? (splitQualified?_eq_some_iff.mpr ⟨rfl, h⟩)

theorem isQualified_append (front back : String) :
    isQualified (front ++ back) = (isQualified front || isQualified back) := by
  rw [isQualified, isQualified, isQualified, String.toList_append, List.contains_append]

end Text

/-! ## Imports -/

namespace Imports

/-- A Java import binds a name to a path that ends in it. -/
theorem splitQualified?_of_mem_addJavaImport {t : SyntaxTree} {imports : Imports} {node : NodeId}
    (himports : ∀ b ∈ imports.bindings, ∃ front, Text.splitQualified? b.2 = some (front, b.1)) :
    ∀ b ∈ (imports.addJavaImport t node).bindings,
      ∃ front, Text.splitQualified? b.2 = some (front, b.1) := by
  intro b hb
  simp only [addJavaImport] at hb
  split at hb
  · exact himports b hb
  · split at hb
    · exact himports b hb
    · split at hb
      · next front short hsplit =>
        rcases List.mem_cons.mp hb with rfl | hb
        · exact ⟨front, hsplit⟩
        · exact himports b (List.mem_filter.mp hb).1
      · exact himports b hb

/-- Every name that a Java unit imports is bound to a path that ends in it. -/
theorem splitQualified?_of_get?_ofJava {t : SyntaxTree} {short full : String}
    (h : (ofJava t).get? short = some full) :
    ∃ front, Text.splitQualified? full = some (front, short) := by
  have hall (nodes : List NodeId) (imports : Imports)
      (himports : ∀ b ∈ imports.bindings, ∃ front, Text.splitQualified? b.2 = some (front, b.1)) :
      ∀ b ∈ (nodes.foldl (addJavaImport t) imports).bindings,
        ∃ front, Text.splitQualified? b.2 = some (front, b.1) := by
    induction nodes generalizing imports with
    | nil => exact himports
    | cons node nodes ih => exact ih _ (splitQualified?_of_mem_addJavaImport himports)
  obtain ⟨before, after, heq, -⟩ := List.lookup_eq_some_iff.mp h
  have hmem : (short, full) ∈ (ofJava t).bindings := by simp [heq]
  exact hall _ {} (fun b hb => absurd hb List.not_mem_nil) (short, full) hmem

end Imports

namespace Java

/-! ## Brackets -/

theorem dot_not_mem_take_reversedBracketRun (cs : List Char) :
    '.' ∉ cs.take (reversedBracketRun cs) := by
  fun_induction reversedBracketRun cs with
  | case1 cs ih => simpa using ih
  | case2 => simp

/-- A name is its base followed by its brackets. -/
theorem splitBrackets_append (name : String) :
    (splitBrackets name).1 ++ (splitBrackets name).2 = name := by
  rw [← String.toList_inj, String.toList_append]
  simp [splitBrackets]

/-- There is no dot in brackets. -/
theorem isQualified_splitBrackets_snd (name : String) :
    Text.isQualified (splitBrackets name).2 = false := by
  have hdrop : name.toList.drop (name.toList.length - reversedBracketRun name.toList.reverse) =
      (name.toList.reverse.take (reversedBracketRun name.toList.reverse)).reverse := by
    rw [List.take_reverse, List.reverse_reverse]
  have hmem := dot_not_mem_take_reversedBracketRun name.toList.reverse
  simp only [splitBrackets, Text.isQualified, String.toList_ofList, hdrop]
  simpa using hmem

/-! ## Full names -/

variable {u : CompilationUnit} {short full : String}

/-- What a Java unit imports ends in the name it is imported as. -/
theorem splitQualified?_of_import (hlanguage : u.language = .java)
    (h : u.imports.get? short = some full) :
    ∃ front, Text.splitQualified? full = some (front, short) := by
  rw [u.imports_eq, hlanguage] at h
  exact Imports.splitQualified?_of_get?_ofJava h

/-- No import binds a qualified name. -/
theorem binds_eq_false_of_isQualified (hlanguage : u.language = .java)
    (h : Text.isQualified short = true) : u.imports.binds short = false := by
  cases hget : u.imports.get? short with
  | none => rw [Imports.binds, hget]; rfl
  | some full =>
    obtain ⟨_, hsplit⟩ := splitQualified?_of_import hlanguage hget
    rw [(Text.splitQualified?_eq_some_iff.mp hsplit).2] at h
    cases h

/-- **The full name of a type ends in its simple name.** -/
theorem simpleName_qualify (hlanguage : u.language = .java) (name : String) :
    Text.simpleName (qualify u name) = Text.simpleName name := by
  have happend := splitBrackets_append name
  have hsuffix := isQualified_splitBrackets_snd name
  simp only [qualify]
  generalize (splitBrackets name).1 = base at *
  generalize (splitBrackets name).2 = suffix at *
  split
  · rfl
  · next hplain =>
    have hname : Text.isQualified name = false := by
      simp only [Bool.or_eq_true, not_or, Bool.not_eq_true] at hplain
      rw [← happend, Text.isQualified_append, hplain.1.2, hsuffix, Bool.or_false]
    have hbehind (front : String) : Text.simpleName (front ++ "." ++ name) = name :=
      Text.simpleName_append hname
    rw [Text.simpleName_eq_self hname]
    split
    · next full hfull =>
      obtain ⟨front, hsplit⟩ := splitQualified?_of_import hlanguage hfull
      rw [(Text.splitQualified?_eq_some_iff.mp hsplit).1, String.append_assoc, happend]
      exact hbehind front
    · split
      · split
        · exact hbehind _
        · exact Text.simpleName_eq_self hname
      · split
        · exact hbehind "java.lang"
        · exact Text.simpleName_eq_self hname

end Java

end CryptoUsage
