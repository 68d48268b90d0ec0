import CryptoUsage.Proofs.FrontEnd.TypeNames

/-!
# Qualifying the names of types

Names are qualified wherever they are read, so a name may be qualified again, and it may be that
of an array whose element was qualified already.  Neither makes a difference: `Java.qualify`
qualifies an array by its element (`qualify_array`), and what it makes of the name of anything
else is the name itself or the name behind a qualifier, which then stays as it is
(`qualify_cases`, `qualify_of_isQualified`).

An import could make a difference, if it bound a name to something that ends in array brackets or
is not qualified; that there are no such imports is `splitQualified?_of_import`.

## What is here

* Array brackets.  A name ends in some number of pairs, and in only one number (`exists_hasRank`,
  `HasRank.unique`).  The brackets of an array are those of its element and one more pair
  (`splitBrackets_array`), and a qualifier in front adds none (`not_hasBrackets_append`).
* Full names.  With the two cases of `qualify_cases` the rest is an induction on the rank:
  brackets are kept (`HasRank.qualify`), and a name that was qualified is qualified
  (`HasRank.qualify_qualify`).  In the step the brackets are peeled off by `qualify_array`; at
  rank zero the name is as it was, or has a qualifier and so is not touched again.

`qualification_is_stable` says both of every name in every Java unit, with arrays.
-/

set_option autoImplicit false

namespace CryptoUsage
namespace Java

/-! ## Array brackets -/

/-- A name ends in array brackets. -/
def HasBrackets (name : String) : Prop := ∃ element, name = element ++ "[]"

/-- A name ends in so many pairs of array brackets. -/
inductive HasRank : String → Nat → Prop
  | element {name : String} (plain : ¬ HasBrackets name) : HasRank name 0
  | array {name : String} {rank : Nat} (element : HasRank name rank) :
    HasRank (name ++ "[]") (rank + 1)

theorem exists_hasRank (name : String) : ∃ rank, HasRank name rank := by
  induction hlength : name.length using Nat.strongRecOn generalizing name with
  | ind length ih =>
    by_cases harray : HasBrackets name
    · obtain ⟨element, rfl⟩ := harray
      have hlt : element.length < length := by
        rw [← hlength, String.length_append]
        exact Nat.lt_add_of_pos_right (by decide)
      obtain ⟨rank, hrank⟩ := ih element.length hlt element rfl
      exact ⟨rank + 1, .array hrank⟩
    · exact ⟨0, .element harray⟩

theorem HasRank.unique {name : String} {rank rank' : Nat} (h : HasRank name rank)
    (h' : HasRank name rank') : rank = rank' := by
  induction h generalizing rank' with
  | element hplain =>
    cases h' with
    | element => rfl
    | array => exact absurd ⟨_, rfl⟩ hplain
  | @array name rank _ ih =>
    generalize hname : name ++ "[]" = array at h'
    cases h' with
    | element hplain => exact absurd ⟨name, hname.symm⟩ hplain
    | array hrank =>
      obtain rfl := (String.append_left_inj _).mp hname
      rw [ih hrank]

/-- A qualifier in front of a name adds no brackets. -/
theorem not_hasBrackets_append {name : String} (h : ¬ HasBrackets name) (front : String) :
    ¬ HasBrackets (front ++ "." ++ name) := by
  rintro ⟨element, heq⟩
  have hlist : (front.toList ++ ['.']) ++ name.toList = element.toList ++ ['[', ']'] := by
    simpa using congrArg String.toList heq
  rcases List.append_eq_append_iff.mp hlist with ⟨rest, -, hname⟩ | ⟨rest, hfront, hbrackets⟩
  · refine h ⟨String.ofList rest, ?_⟩
    rw [← String.toList_inj]
    simpa using hname
  · -- the brackets would begin before the name, with the dot among them
    rcases List.eq_nil_or_concat rest with rfl | ⟨init, last, rfl⟩
    · refine h ⟨"", ?_⟩
      rw [← String.toList_inj]
      simpa using hbrackets.symm
    · rw [List.concat_eq_append, ← List.append_assoc] at hfront
      obtain ⟨-, hdot⟩ := List.append_inj' hfront rfl
      obtain rfl : '.' = last := by simpa using hdot
      have hmem : '.' ∈ ['[', ']'] := by simp [hbrackets]
      simp at hmem

/-- The brackets of an array are those of its element and one more pair. -/
theorem splitBrackets_array (name : String) : splitBrackets (name ++ "[]") =
    ((splitBrackets name).1, (splitBrackets name).2 ++ "[]") := by
  have hlist : (name ++ "[]").toList = name.toList ++ ['[', ']'] := by simp
  have hrun : reversedBracketRun (name.toList ++ ['[', ']']).reverse =
      reversedBracketRun name.toList.reverse + 2 := by
    rw [List.reverse_append]
    rfl
  have hbase : (name.toList ++ ['[', ']']).length -
      (reversedBracketRun name.toList.reverse + 2) =
        name.toList.length - reversedBracketRun name.toList.reverse := by
    rw [List.length_append]
    exact Nat.add_sub_add_right ..
  have hle : name.toList.length - reversedBracketRun name.toList.reverse ≤ name.toList.length :=
    Nat.sub_le ..
  simp only [splitBrackets, hlist, hrun, hbase, List.take_append_of_le_length hle,
    List.drop_append_of_le_length hle, String.ofList_append]

/-- A name that ends in no brackets is all base. -/
theorem splitBrackets_of_not_hasBrackets {name : String} (h : ¬ HasBrackets name) :
    splitBrackets name = (name, "") := by
  have hrun : reversedBracketRun name.toList.reverse = 0 := by
    rw [reversedBracketRun.eq_def]
    split
    · next cs hreverse =>
      refine absurd ⟨String.ofList cs.reverse, ?_⟩ h
      rw [← String.toList_inj, ← List.reverse_inj, hreverse]
      simp
    · rfl
  simp [splitBrackets, hrun]

/-! ## Full names -/

variable {u : CompilationUnit} {name : String}

/-- **An array is qualified by its element.** -/
theorem qualify_array (u : CompilationUnit) (name : String) :
    qualify u (name ++ "[]") = qualify u name ++ "[]" := by
  simp only [qualify, splitBrackets_array]
  split
  · rfl
  · split
    · rw [String.append_assoc]
    · split
      · split
        · exact (String.append_assoc ..).symm
        · rfl
      · split
        · exact (String.append_assoc ..).symm
        · rfl

/-- What is not an array keeps its name, behind a qualifier or without one. -/
theorem qualify_cases (hlanguage : u.language = .java) (h : ¬ HasBrackets name) :
    qualify u name = name ∨ ∃ front, qualify u name = front ++ "." ++ name := by
  simp only [qualify, splitBrackets_of_not_hasBrackets h]
  split
  · exact .inl rfl
  · split
    · next full hfull =>
      obtain ⟨front, hsplit⟩ := splitQualified?_of_import hlanguage hfull
      rw [(Text.splitQualified?_eq_some_iff.mp hsplit).1, String.append_empty]
      exact .inr ⟨front, rfl⟩
    · split
      · split
        · next package _ => exact .inr ⟨package, rfl⟩
        · exact .inl rfl
      · split
        · exact .inr ⟨"java.lang", rfl⟩
        · exact .inl rfl

/-- A qualified name stays as it is. -/
theorem qualify_of_isQualified (h : ¬ HasBrackets name)
    (hqualified : Text.isQualified name = true) : qualify u name = name := by
  simp only [qualify, splitBrackets_of_not_hasBrackets h, hqualified, Bool.or_true, Bool.true_or,
    if_true]

theorem isQualified_behind (front name : String) :
    Text.isQualified (front ++ "." ++ name) = true := by
  rw [Text.isQualified_append, Text.isQualified_append, Bool.or_eq_true_iff]
  exact .inl (Bool.or_eq_true_iff.mpr (.inr (by decide)))

/-- Qualifying keeps the brackets. -/
theorem HasRank.qualify (hlanguage : u.language = .java) {rank : Nat} (h : HasRank name rank) :
    HasRank (qualify u name) rank := by
  induction h with
  | @element name hplain =>
    refine .element ?_
    rcases qualify_cases hlanguage hplain with heq | ⟨front, heq⟩ <;> rw [heq]
    · exact hplain
    · exact not_hasBrackets_append hplain front
  | @array name rank _ ih =>
    rw [qualify_array]
    exact .array ih

/-- A name that was qualified is qualified. -/
theorem HasRank.qualify_qualify (hlanguage : u.language = .java) {rank : Nat}
    (h : HasRank name rank) : Java.qualify u (Java.qualify u name) = Java.qualify u name := by
  induction h with
  | @element name hplain =>
    rcases qualify_cases hlanguage hplain with heq | ⟨front, heq⟩
    · rw [heq, heq]
    · rw [heq]
      exact qualify_of_isQualified (not_hasBrackets_append hplain front) (isQualified_behind ..)
  | @array name rank _ ih => rw [qualify_array, qualify_array, ih]

/-- **Qualification is stable**: a name that was qualified stays as it is, the brackets of an array
are kept, and an array is qualified by its element. -/
theorem qualification_is_stable (hlanguage : u.language = .java) (name : String) :
    qualify u (qualify u name) = qualify u name ∧
      (∃ rank, (∀ n, HasRank name n ↔ n = rank) ∧ ∀ n, HasRank (qualify u name) n ↔ n = rank) ∧
      qualify u (name ++ "[]") = qualify u name ++ "[]" := by
  obtain ⟨rank, hrank⟩ := exists_hasRank name
  have hrank' := hrank.qualify hlanguage
  refine ⟨hrank.qualify_qualify hlanguage, ⟨rank, fun n => ?_, fun n => ?_⟩, qualify_array u name⟩
  · exact ⟨fun h => h.unique hrank, fun h => h ▸ hrank⟩
  · exact ⟨fun h => h.unique hrank', fun h => h ▸ hrank'⟩

namespace Imported

/-- The nodes of a unit with a package, an import and a class. -/
def nodes : Array SyntaxNode := #[
  ⟨none, "program", true, none, ⟨1, 1, 0, 36⟩, "package p;\nimport a.b.C;\nclass D \x7b\x7d\n"⟩,
  ⟨some 0, "package_declaration", true, none, ⟨1, 1, 0, 10⟩, "package p;"⟩,
  ⟨some 1, "package", false, none, ⟨1, 1, 0, 7⟩, "package"⟩,
  ⟨some 1, "identifier", true, none, ⟨1, 9, 8, 9⟩, "p"⟩,
  ⟨some 1, ";", false, none, ⟨1, 10, 9, 10⟩, ";"⟩,
  ⟨some 0, "import_declaration", true, none, ⟨2, 1, 11, 24⟩, "import a.b.C;"⟩,
  ⟨some 5, "import", false, none, ⟨2, 1, 11, 17⟩, "import"⟩,
  ⟨some 5, "scoped_identifier", true, none, ⟨2, 8, 18, 23⟩, "a.b.C"⟩,
  ⟨some 7, "scoped_identifier", true, some "scope", ⟨2, 8, 18, 21⟩, "a.b"⟩,
  ⟨some 8, "identifier", true, some "scope", ⟨2, 8, 18, 19⟩, "a"⟩,
  ⟨some 8, ".", false, none, ⟨2, 9, 19, 20⟩, "."⟩,
  ⟨some 8, "identifier", true, some "name", ⟨2, 10, 20, 21⟩, "b"⟩,
  ⟨some 7, ".", false, none, ⟨2, 11, 21, 22⟩, "."⟩,
  ⟨some 7, "identifier", true, some "name", ⟨2, 12, 22, 23⟩, "C"⟩,
  ⟨some 5, ";", false, none, ⟨2, 13, 23, 24⟩, ";"⟩,
  ⟨some 0, "class_declaration", true, none, ⟨3, 1, 25, 35⟩, "class D \x7b\x7d"⟩,
  ⟨some 15, "class", false, none, ⟨3, 1, 25, 30⟩, "class"⟩,
  ⟨some 15, "identifier", true, some "name", ⟨3, 7, 31, 32⟩, "D"⟩,
  ⟨some 15, "class_body", true, some "body", ⟨3, 9, 33, 35⟩, "\x7b\x7d"⟩,
  ⟨some 18, "\x7b", false, none, ⟨3, 9, 33, 34⟩, "\x7b"⟩,
  ⟨some 18, "\x7d", false, none, ⟨3, 10, 34, 35⟩, "\x7d"⟩]

/-- The unit. -/
def unit : CompilationUnit where
  language := .java
  filePath := "D.java"
  tree := { nodes, parent_lt := by decide +kernel }

end Imported

/-- Arrays of an imported type and of the declared one. -/
theorem imported_and_declared_arrays_are_stable : Imported.unit.language = .java ∧
    (qualify Imported.unit "C[]" = "a.b.C[]" ∧ qualify Imported.unit "a.b.C[]" = "a.b.C[]" ∧
      qualify Imported.unit "C[][]" = "a.b.C[][]") ∧
    qualify Imported.unit "D[]" = "p.D[]" ∧ qualify Imported.unit "p.D[]" = "p.D[]" := by
  have himported : qualify Imported.unit "C[]" = "a.b.C[]" := by decide +kernel
  have hdeclared : qualify Imported.unit "D[]" = "p.D[]" := by decide +kernel
  obtain ⟨hagain, -, harray⟩ := qualification_is_stable (u := Imported.unit) rfl "C[]"
  obtain ⟨hagain', -, -⟩ := qualification_is_stable (u := Imported.unit) rfl "D[]"
  rw [himported] at hagain harray
  rw [hdeclared] at hagain'
  exact ⟨rfl, ⟨himported, hagain, harray⟩, hdeclared, hagain'⟩

end Java
end CryptoUsage
