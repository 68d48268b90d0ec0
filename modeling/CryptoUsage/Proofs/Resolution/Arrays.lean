import CryptoUsage.Proofs.Resolution.Transparency

/-!
# Sizes of arrays

An array creation is read in three parts: the expressions in its brackets, its rank, and the
number of the elements that are written out.  A factory for sizes takes the single expression in
the brackets of a one-dimensional array, or else the number of its elements (`sizeReadings`).

The expression in the brackets has the values that it has by itself: the array stands on the path
behind it, but whatever comes back to the array only comes back to that expression.

Rank and elements come from different children, and the search asks for the rank only where there
is an expression in the brackets.  An array of arrays that is written out without one has the
number of its rows for a size, although it is not of one dimension (`not_one_dimensional`).

## How it goes

* The parts of an array creation.  Every expression in brackets counts once in the rank
  (`length_sizes_le`), so there are no more of them than dimensions, and a list of elements by
  itself is of one dimension (`exists_arrayCreation`).
* What is found.  From a one-dimensional array both searches hand on to the expression in the
  brackets and return what they find there (`valueSearch_relay`, `planSearch_relay`).  For such a
  relay the mark on the node that hands on makes no difference (`resolveWithin_dimension`,
  `planWithin_dimension`), with any number of steps.  The remaining cases of rank and elements are
  read off the definition.
-/

set_option autoImplicit false

namespace CryptoUsage

/-! ## The parts of an array creation -/

namespace Java

variable {u : CompilationUnit} {n : NodeId}

/-- A node creates an array or lists the elements of one. -/
def IsArray (u : CompilationUnit) (n : NodeId) : Prop :=
  u.tree.kind n = "array_creation_expression" ∨ u.tree.kind n = "array_initializer"

instance (u : CompilationUnit) (n : NodeId) : Decidable (IsArray u n) :=
  inferInstanceAs (Decidable (_ ∨ _))

theorem expression_of_isArray (h : IsArray u n) : expression u n = arrayCreation u n := by
  have hliteral : literal? u n = none := by
    rcases h with h | h <;> simp [literal?, isIn, h, Category.holds, Category.kinds,
      Category.javaKinds]
  rw [expression, hliteral]
  rcases h with h | h <;> simp only [h]

/-- Every expression in brackets counts once in the rank. -/
theorem length_sizes_le (parts : List NodeId) (rank : Nat) :
    rank + ((parts.filter fun c => u.tree.kind c == "dimensions_expr").filterMap
        (dimensionSize? u)).length ≤
      parts.foldl (fun rank part => rank + rankOf u part) rank := by
  induction parts generalizing rank with
  | nil => exact Nat.le_refl rank
  | cons part parts ih =>
    refine Nat.le_trans ?_ (ih (rank + rankOf u part))
    rw [List.filter_cons]
    split
    · next hkind =>
      have hone : rankOf u part = 1 := by simp only [rankOf, eq_of_beq hkind]
      rw [hone, Nat.add_assoc, Nat.add_le_add_iff_left, Nat.add_comm, List.filterMap_cons]
      split
      · exact Nat.le_succ _
      · exact Nat.le_refl _
    · omega

/-- The parts of an array creation: there are no more expressions in brackets than dimensions, and a
list of elements by itself is of one dimension. -/
theorem exists_arrayCreation (h : IsArray u n) :
    ∃ dimensions rank elements, expression u n = .arrayCreation dimensions rank elements ∧
      dimensions.length ≤ rank ∧
      (u.tree.kind n = "array_initializer" →
        dimensions = [] ∧ rank = 1 ∧ elements = some (expressionsOf u n).length) := by
  rw [expression_of_isArray h, arrayCreation]
  by_cases hkind : u.tree.kind n = "array_initializer"
  · rw [if_pos hkind]
    exact ⟨_, _, _, rfl, Nat.zero_le 1, fun _ => ⟨rfl, rfl, rfl⟩⟩
  · rw [if_neg hkind]
    refine ⟨_, _, _, rfl, ?_, fun h => absurd h hkind⟩
    simpa only [Nat.zero_add] using length_sizes_le (u.tree.namedChildren n) 0

end Java

namespace CompilationUnit

variable {u : CompilationUnit} {config : ScanConfig} {factory : ValueFactory} {n : NodeId}

/-! ## What is found -/

/-- The readings of an array creation as one-dimensional arrays have them: those of the expression
in the brackets, or the number of elements. -/
def sizeReadings (u : CompilationUnit) (config : ScanConfig) (factory : ValueFactory) (n : NodeId)
    (dimensions : List NodeId) (rank : Nat) (elements : Option Nat) : List Reading :=
  if factory.isSize ∧ rank = 1 then
    match dimensions, elements with
    | [dimension], _ => u.resolveWithin config factory config.maxResolutionDepth [] [] [] dimension
    | [], some count => readingOf factory [] (.int (Int64.ofNat count)) n
    | _, _ => []
  else []

/-- What is planned for an array creation: the plans for the expression in the brackets. -/
def sizePlans (u : CompilationUnit) (config : ScanConfig) (size : Bool) (dimensions : List NodeId)
    (rank : Nat) : List HookPlan :=
  match dimensions with
  | [dimension] =>
    if size ∧ rank = 1 then
      u.planWithin config size config.maxResolutionDepth [] [] dimension
    else []
  | _ => []

section Relay

variable {dimension : NodeId} {elements : Option Nat}

theorem valueSearch_relay (h : u.expression n = .arrayCreation [dimension] 1 elements)
    (hsize : factory.isSize) {q : Query} (hq : q.node = n) :
    ∃ q' : Query, u.valueSearch config factory q = Search.one q' ∧ q'.node = dimension := by
  refine ⟨⟨q.frames, [], dimension⟩, ?_, rfl⟩
  simp only [valueSearch, hq, h, arraySearch, hsize, Bool.not_true, Bool.false_eq_true, if_false,
    if_true]

theorem planSearch_relay (h : u.expression n = .arrayCreation [dimension] 1 elements) {q : Query}
    (hq : q.node = n) :
    ∃ q' : Query, u.planSearch config true q = Search.one q' ∧ q'.node = dimension := by
  refine ⟨⟨q.frames, [], dimension⟩, ?_, rfl⟩
  simp only [planSearch, hq, h, if_true]

/-- The array on the path makes no difference to the values of the expression in its brackets. -/
theorem resolveWithin_dimension (h : u.expression n = .arrayCreation [dimension] 1 elements)
    (hsize : factory.isSize) (steps : Nat) :
    u.resolveWithin config factory steps [n] [] [] dimension =
      u.resolveWithin config factory steps [] [] [] dimension := by
  rw [← found_valueSearch steps [n] ⟨[], [], dimension⟩,
    ← found_valueSearch steps [] ⟨[], [], dimension⟩, List.toFinset_cons]
  exact Search.found_of_relay (fun q hq => valueSearch_relay h hsize hq) rfl

theorem planWithin_dimension (h : u.expression n = .arrayCreation [dimension] 1 elements)
    (steps : Nat) :
    u.planWithin config true steps [n] [] dimension =
      u.planWithin config true steps [] [] dimension := by
  rw [← found_planSearch steps [n] ⟨[], [], dimension⟩,
    ← found_planSearch steps [] ⟨[], [], dimension⟩, List.toFinset_cons]
  exact Search.found_of_relay (fun q hq => planSearch_relay h hq) rfl

end Relay

section Readings

variable {dimensions : List NodeId} {rank : Nat} {elements : Option Nat} {selections : List String}

/-- An array creation has the readings of a one-dimensional array, unless it is written out without
an expression in its brackets. -/
theorem resolveValue_eq_sizeReadings (h : u.expression n = .arrayCreation dimensions rank elements)
    (hrank : rank = 1 ∨ dimensions ≠ [] ∨ elements = none) :
    u.resolveValue config factory selections n =
      u.sizeReadings config factory n dimensions rank elements := by
  have hshape : u.resolveValue config factory selections n =
      resolveArray factory (u.resolveWithin config factory config.maxResolutionDepth [n]) [] n
        dimensions rank elements := by
    change u.resolveShape config factory _ [] selections n (u.expression n) = _
    rw [h]
    rfl
  rw [hshape]
  unfold resolveArray sizeReadings
  cases hsize : factory.isSize with
  | false => rfl
  | true =>
    rcases dimensions with _ | ⟨dimension, _ | _⟩
    · cases elements with
      | none => exact (ite_self _).symm
      | some count =>
        have hone : rank = 1 := by simpa using hrank
        rw [if_pos (And.intro rfl hone)]
        rfl
    · by_cases hone : rank = 1
      · subst hone
        exact resolveWithin_dimension h hsize _
      · simp [hone]
    · exact (ite_self _).symm

/-- If nothing comes too deep, the values of a one-dimensional array are those of the expression in
its brackets. -/
theorem resolveValue_eq_of_dimension {dimension : NodeId}
    (h : u.expression n = .arrayCreation [dimension] 1 elements) (hsize : factory.isSize)
    (hfull : u.ResolvesFully config factory selections n) :
    u.resolveValue config factory selections n = u.resolveValue config factory [] dimension := by
  have hasked : (⟨[], [], dimension⟩ : Query) ∈
      (u.valueSearch config factory ⟨[], selections, n⟩).asked
        (Search.found (u.valueSearch config factory) config.maxResolutionDepth {n}) := by
    simp only [valueSearch, h, arraySearch, hsize, Bool.not_true, Bool.false_eq_true, if_false,
      if_true]
    exact List.mem_singleton_self _
  have hdepth : u.resolveWithin config factory config.maxResolutionDepth [n] [] [] dimension =
      u.resolveWithin config factory (config.maxResolutionDepth + 1) [n] [] [] dimension := by
    rw [← found_valueSearch _ [n] ⟨[], [], dimension⟩,
      ← found_valueSearch _ [n] ⟨[], [], dimension⟩]
    exact (hfull.found_asked hasked).symm
  rw [resolveValue_eq_sizeReadings h (.inl rfl), sizeReadings, if_pos ⟨hsize, rfl⟩]
  rw [← resolveWithin_dimension h hsize, hdepth, resolveWithin_dimension h hsize]
  rfl

/-- Only the expression in the brackets of a one-dimensional array is looked at for plans. -/
theorem planHooks_eq_sizePlans (h : u.expression n = .arrayCreation dimensions rank elements)
    (size : Bool) :
    u.planHooks config size selections n = u.sizePlans config size dimensions rank := by
  have hshape : u.planHooks config size selections n =
      u.planShape config size (u.planWithin config size config.maxResolutionDepth [n]) selections
        (.arrayCreation dimensions rank elements) := by
    change u.planShape config size _ selections (u.expression n) = _
    rw [h]
  rw [hshape]
  unfold sizePlans
  rcases dimensions with _ | ⟨dimension, _ | _⟩
  · rfl
  · by_cases hone : rank = 1
    · subst hone
      cases size with
      | false => rfl
      | true => exact planWithin_dimension h _
    · simp [planShape, hone]
  · rfl

end Readings

/-- **Sizes come from one-dimensional arrays.**  An array creation that is not written out as an
array of arrays has the readings of a one-dimensional array: with any factory and selections, those
of the single expression in its brackets, or else the number of its elements.  Something is planned
for it only if it is one-dimensional and has a single expression in its brackets. -/
theorem resolveValue_array (hjava : u.language = .java) (hn : Java.IsArray u n) :
    ∃ dimensions rank elements, u.expression n = .arrayCreation dimensions rank elements ∧
      dimensions.length ≤ rank ∧
      (u.tree.kind n = "array_initializer" →
        dimensions = [] ∧ rank = 1 ∧ elements = some (Java.expressionsOf u n).length) ∧
      ∀ (config : ScanConfig) (selections : List String),
        (∀ factory : ValueFactory,
          (rank = 1 ∨ dimensions ≠ [] ∨ elements = none →
            u.resolveValue config factory selections n =
              u.sizeReadings config factory n dimensions rank elements) ∧
          ∀ dimension, dimensions = [dimension] → rank = 1 → factory.isSize →
            u.ResolvesFully config factory selections n →
            u.resolveValue config factory selections n =
              u.resolveValue config factory [] dimension) ∧
        ∀ size, u.planHooks config size selections n = u.sizePlans config size dimensions rank := by
  have hexpression : u.expression n = Java.expression u n := by rw [expression, hjava]
  obtain ⟨dimensions, rank, elements, hshape, hlength, hlist⟩ := Java.exists_arrayCreation hn
  rw [← hexpression] at hshape
  refine ⟨dimensions, rank, elements, hshape, hlength, hlist, fun config selections => ⟨?_, ?_⟩⟩
  · refine fun factory => ⟨resolveValue_eq_sizeReadings hshape, ?_⟩
    rintro dimension rfl rfl hsize hfull
    exact resolveValue_eq_of_dimension hshape hsize hfull
  · exact planHooks_eq_sizePlans hshape

end CompilationUnit

/-! ### An array of arrays

    class A {
        Object k = new int[][]{{1},{2}};
        Object l = new int[16];
    }
-/

namespace Rows

/-- The nodes of the program. -/
def nodes : Array SyntaxNode := #[
  ⟨none, "program", true, none, ⟨1, 1, 0, 77⟩,
    "class A \x7b\n    Object k = new int[][]\x7b\x7b1\x7d,\x7b2\x7d\x7d;\n    Object l = new int[16];\n\x7d\n"⟩,
  ⟨some 0, "class_declaration", true, none, ⟨1, 1, 0, 76⟩,
    "class A \x7b\n    Object k = new int[][]\x7b\x7b1\x7d,\x7b2\x7d\x7d;\n    Object l = new int[16];\n\x7d"⟩,
  ⟨some 1, "class", false, none, ⟨1, 1, 0, 5⟩, "class"⟩,
  ⟨some 1, "identifier", true, some "name", ⟨1, 7, 6, 7⟩, "A"⟩,
  ⟨some 1, "class_body", true, some "body", ⟨1, 9, 8, 76⟩,
    "\x7b\n    Object k = new int[][]\x7b\x7b1\x7d,\x7b2\x7d\x7d;\n    Object l = new int[16];\n\x7d"⟩,
  ⟨some 4, "\x7b", false, none, ⟨1, 9, 8, 9⟩, "\x7b"⟩,
  ⟨some 4, "field_declaration", true, none, ⟨2, 5, 14, 46⟩,
    "Object k = new int[][]\x7b\x7b1\x7d,\x7b2\x7d\x7d;"⟩,
  ⟨some 6, "type_identifier", true, some "type", ⟨2, 5, 14, 20⟩, "Object"⟩,
  ⟨some 6, "variable_declarator", true, some "declarator", ⟨2, 12, 21, 45⟩,
    "k = new int[][]\x7b\x7b1\x7d,\x7b2\x7d\x7d"⟩,
  ⟨some 8, "identifier", true, some "name", ⟨2, 12, 21, 22⟩, "k"⟩,
  ⟨some 8, "=", false, none, ⟨2, 14, 23, 24⟩, "="⟩,
  ⟨some 8, "array_creation_expression", true, some "value", ⟨2, 16, 25, 45⟩,
    "new int[][]\x7b\x7b1\x7d,\x7b2\x7d\x7d"⟩,
  ⟨some 11, "new", false, none, ⟨2, 16, 25, 28⟩, "new"⟩,
  ⟨some 11, "integral_type", true, some "type", ⟨2, 20, 29, 32⟩, "int"⟩,
  ⟨some 13, "int", false, none, ⟨2, 20, 29, 32⟩, "int"⟩,
  ⟨some 11, "dimensions", true, some "dimensions", ⟨2, 23, 32, 36⟩, "[][]"⟩,
  ⟨some 15, "[", false, none, ⟨2, 23, 32, 33⟩, "["⟩,
  ⟨some 15, "]", false, none, ⟨2, 24, 33, 34⟩, "]"⟩,
  ⟨some 15, "[", false, none, ⟨2, 25, 34, 35⟩, "["⟩,
  ⟨some 15, "]", false, none, ⟨2, 26, 35, 36⟩, "]"⟩,
  ⟨some 11, "array_initializer", true, some "value", ⟨2, 27, 36, 45⟩,
    "\x7b\x7b1\x7d,\x7b2\x7d\x7d"⟩,
  ⟨some 20, "\x7b", false, none, ⟨2, 27, 36, 37⟩, "\x7b"⟩,
  ⟨some 20, "array_initializer", true, none, ⟨2, 28, 37, 40⟩, "\x7b1\x7d"⟩,
  ⟨some 22, "\x7b", false, none, ⟨2, 28, 37, 38⟩, "\x7b"⟩,
  ⟨some 22, "decimal_integer_literal", true, none, ⟨2, 29, 38, 39⟩, "1"⟩,
  ⟨some 22, "\x7d", false, none, ⟨2, 30, 39, 40⟩, "\x7d"⟩,
  ⟨some 20, ",", false, none, ⟨2, 31, 40, 41⟩, ","⟩,
  ⟨some 20, "array_initializer", true, none, ⟨2, 32, 41, 44⟩, "\x7b2\x7d"⟩,
  ⟨some 27, "\x7b", false, none, ⟨2, 32, 41, 42⟩, "\x7b"⟩,
  ⟨some 27, "decimal_integer_literal", true, none, ⟨2, 33, 42, 43⟩, "2"⟩,
  ⟨some 27, "\x7d", false, none, ⟨2, 34, 43, 44⟩, "\x7d"⟩,
  ⟨some 20, "\x7d", false, none, ⟨2, 35, 44, 45⟩, "\x7d"⟩,
  ⟨some 6, ";", false, none, ⟨2, 36, 45, 46⟩, ";"⟩,
  ⟨some 4, "field_declaration", true, none, ⟨3, 5, 51, 74⟩, "Object l = new int[16];"⟩,
  ⟨some 33, "type_identifier", true, some "type", ⟨3, 5, 51, 57⟩, "Object"⟩,
  ⟨some 33, "variable_declarator", true, some "declarator", ⟨3, 12, 58, 73⟩, "l = new int[16]"⟩,
  ⟨some 35, "identifier", true, some "name", ⟨3, 12, 58, 59⟩, "l"⟩,
  ⟨some 35, "=", false, none, ⟨3, 14, 60, 61⟩, "="⟩,
  ⟨some 35, "array_creation_expression", true, some "value", ⟨3, 16, 62, 73⟩, "new int[16]"⟩,
  ⟨some 38, "new", false, none, ⟨3, 16, 62, 65⟩, "new"⟩,
  ⟨some 38, "integral_type", true, some "type", ⟨3, 20, 66, 69⟩, "int"⟩,
  ⟨some 40, "int", false, none, ⟨3, 20, 66, 69⟩, "int"⟩,
  ⟨some 38, "dimensions_expr", true, some "dimensions", ⟨3, 23, 69, 73⟩, "[16]"⟩,
  ⟨some 42, "[", false, none, ⟨3, 23, 69, 70⟩, "["⟩,
  ⟨some 42, "decimal_integer_literal", true, none, ⟨3, 24, 70, 72⟩, "16"⟩,
  ⟨some 42, "]", false, none, ⟨3, 26, 72, 73⟩, "]"⟩,
  ⟨some 33, ";", false, none, ⟨3, 27, 73, 74⟩, ";"⟩,
  ⟨some 4, "\x7d", false, none, ⟨4, 1, 75, 76⟩, "\x7d"⟩]

/-- The unit with the program. -/
def unit : CompilationUnit where
  language := .java
  filePath := "A.java"
  tree := { nodes, parent_lt := by decide +kernel }

/-- The array of two arrays. -/
def rows : NodeId := 11

/-- The array of sixteen elements. -/
def row : NodeId := 38

end Rows

set_option maxRecDepth 100000 in
/-- The array of sixteen elements has the size in its brackets. -/
theorem CompilationUnit.resolveValue_row :
    Rows.unit.language = .java ∧ Java.IsArray Rows.unit Rows.row ∧
      Rows.unit.resolveValue {} .keyBytes [] Rows.row = [⟨.int 16, 44⟩] := by
  have hjava : Rows.unit.language = .java := rfl
  have harray : Java.IsArray Rows.unit Rows.row := by decide +kernel
  obtain ⟨dimensions, rank, elements, hshape, -, -, h⟩ := resolveValue_array hjava harray
  have hrow : Rows.unit.expression Rows.row = .arrayCreation [44] 1 none := by decide +kernel
  obtain ⟨rfl, rfl, rfl⟩ := Expression.arrayCreation.inj (hshape.symm.trans hrow)
  have hfull : Rows.unit.ResolvesFully {} .keyBytes [] Rows.row := by decide +kernel
  have hvalues := ((h {} []).1 .keyBytes).2 44 rfl rfl rfl hfull
  exact ⟨hjava, harray, hvalues.trans (by decide +kernel)⟩

set_option maxRecDepth 100000 in
/-- The array of arrays has a size, although it is not one-dimensional. -/
theorem CompilationUnit.not_one_dimensional :
    ¬ ∀ (u : CompilationUnit) (config : ScanConfig) (factory : ValueFactory)
      (selections : List String) (n : NodeId) (dimensions : List NodeId) (rank : Nat)
      (elements : Option Nat), u.language = .java → Java.IsArray u n →
      u.expression n = .arrayCreation dimensions rank elements →
      u.resolveValue config factory selections n =
        u.sizeReadings config factory n dimensions rank elements := by
  intro h
  have hrows : Rows.unit.expression Rows.rows = .arrayCreation [] 2 (some 2) := by decide +kernel
  exact absurd (h Rows.unit {} .keyBytes [] Rows.rows [] 2 (some 2) rfl (by decide +kernel) hrows)
    (by decide +kernel)

end CryptoUsage
