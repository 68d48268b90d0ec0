import CryptoUsage.FrontEnd.Unit
import CryptoUsage.Proofs.Syntax.IntegerLiterals

/-!
# Signs

A minus sign in front of an integer literal is taken into the constant.  The words are not
symmetric: the least one has no opposite, and negating it wraps.  But the least word is never
there to be negated, since a literal denotes no negative number, and the opposites of those that
it does denote stop one short of the least word.  In Python signs may follow each other, and the
argument repeats from each to the next (`isSymmetric_of_signedIntWithin?`).

## What is here

* Words.  `IsSymmetric` says that a word is not the least one; its opposite is then the opposite
  as an integer, and symmetric again.
* Java.  An expression is an integer constant as a literal, or as one after a minus sign
  (`of_expression_eq_int`).  Most of the proof is that no other kind of expression is a literal.
* Python.  Any number of signs is read by a walk; one step of it is `signedIntWithin?_of_unary`,
  and more height finds nothing else (`signedIntWithin?_succ`).
* Either language.  `WritesIntegers` is the hypothesis that the integer literals of a unit are
  written as the grammar has them, as in `Proofs/Syntax/IntegerLiterals`.  Then every integer
  constant that an expression denotes has an opposite
  (`WritesIntegers.isSymmetric_of_expression`), and a minus sign makes that
  (`Negates.of_expression`); `integer_literals_never_wrap` says both, together with what literals
  denote.
-/

set_option autoImplicit false

namespace CryptoUsage

/-! ## Words and their opposites -/

/-- A word has an opposite among the words: it is not the least one. -/
def IsSymmetric (word : Int64) : Prop := Int64.minValue.toInt < word.toInt

theorem IsSymmetric.toInt_neg {word : Int64} (h : IsSymmetric word) :
    (-word).toInt = -word.toInt := by
  have hmin : Int64.minValue.toInt = -2 ^ 63 := by decide
  have hmax : Int64.maxValue.toInt = 2 ^ 63 - 1 := by decide
  have hle := Int64.toInt_le word
  rw [IsSymmetric] at h
  rw [Int64.toInt_neg]
  exact Int.bmod_eq_of_le (by omega) (by omega)

theorem IsSymmetric.neg {word : Int64} (h : IsSymmetric word) : IsSymmetric (-word) := by
  have hmin : Int64.minValue.toInt = -2 ^ 63 := by decide
  have hmax : Int64.maxValue.toInt = 2 ^ 63 - 1 := by decide
  have hle := Int64.toInt_le word
  rw [IsSymmetric, h.toInt_neg]
  omega

theorem isSymmetric_of_nonneg {word : Int64} (h : 0 ≤ word.toInt) : IsSymmetric word := by
  have hmin : Int64.minValue.toInt < 0 := by decide
  exact Int.lt_of_lt_of_le hmin h

/-! ## Literals and signs of a unit -/

namespace CompilationUnit

/-- What has a value as an integer literal of a unit is written as one. -/
def WritesIntegers (u : CompilationUnit) : Prop :=
  ∀ n word, Category.integerLiteral.holds u.language (u.tree.kind n) = true →
    Literal.int? u.language (u.tree.text n) = some word →
    ∃ radix digits, Literal.IsToken u.language radix digits (u.tree.text n)

/-- A node is a minus sign in front of an operand. -/
def Negates (u : CompilationUnit) (n operand : NodeId) : Prop :=
  (u.tree.child? n "operator").map u.tree.text = some "-" ∧
    match u.language with
    | .java => u.tree.kind n = "unary_expression" ∧ u.tree.child? n "operand" = some operand
    | .python => u.tree.kind n = "unary_operator" ∧ u.tree.child? n "argument" = some operand

end CompilationUnit

variable {u : CompilationUnit} {n operand : NodeId} {word : Int64}

/-- An integer literal of a unit has an opposite. -/
theorem CompilationUnit.WritesIntegers.isSymmetric (hu : u.WritesIntegers)
    (hkind : Category.integerLiteral.holds u.language (u.tree.kind n) = true)
    (hword : Literal.int? u.language (u.tree.text n) = some word) : IsSymmetric word := by
  obtain ⟨_, _, htoken⟩ := hu n word hkind hword
  exact isSymmetric_of_nonneg (Literal.toInt_nonneg_of_isToken htoken hword)

namespace Java

theorem isSymmetric_of_literal? (hlanguage : u.language = .java) (hu : u.WritesIntegers)
    (h : literal? u n = some (.int word)) : IsSymmetric word := by
  rw [literal?] at h
  split at h
  · next hkind =>
    obtain ⟨_, hword, heq⟩ := Option.map_eq_some_iff.mp h
    cases heq
    exact hu.isSymmetric (by rwa [hlanguage]) (by rwa [hlanguage])
  · split at h
    · split at h <;> cases h
    · split at h <;> cases h
    · split at h <;> cases h
    all_goals cases h

/-! ### What is no constant -/

theorem identifierExpression_ne_literal (value : Constant) :
    identifierExpression u n ≠ .literal value := by
  unfold identifierExpression
  split
  · nofun
  · split
    · split <;> nofun
    · nofun

theorem fieldExpression_ne_literal (value : Constant) : fieldExpression u n ≠ .literal value := by
  unfold fieldExpression
  split
  · nofun
  · split
    · dsimp only
      split <;> nofun
    · nofun

theorem arrayCreation_ne_literal (value : Constant) : arrayCreation u n ≠ .literal value := by
  unfold arrayCreation
  split <;> nofun

theorem wrapped_ne_literal (inner : Option NodeId) (value : Constant) :
    wrapped inner ≠ .literal value := by
  cases inner <;> nofun

/-! ### What is one -/

/-- An expression is an integer constant as a literal, or as one after a minus sign. -/
theorem of_expression_eq_int (h : expression u n = .literal (.int word)) :
    literal? u n = some (.int word) ∨
      u.tree.kind n = "unary_expression" ∧ unaryExpression u n = .literal (.int word) := by
  rw [expression] at h
  cases hliteral : literal? u n with
  | some value =>
    rw [hliteral] at h
    cases h
    exact .inl rfl
  | none =>
    simp only [hliteral] at h
    split at h
    case h_1 => exact absurd h (identifierExpression_ne_literal _)
    case h_2 => exact absurd h (fieldExpression_ne_literal _)
    case h_5 | h_6 => exact absurd h (arrayCreation_ne_literal _)
    case h_7 | h_8 => exact absurd h (wrapped_ne_literal _ _)
    case h_9 hkind => exact .inr ⟨hkind, h⟩
    all_goals cases h

/-- A minus sign gives a constant in front of a literal only. -/
theorem of_unaryExpression_eq_int (h : unaryExpression u n = .literal (.int word)) :
    ∃ operand inner, u.tree.child? n "operand" = some operand ∧
      literal? u operand = some (.int inner) ∧ word = -inner := by
  rw [unaryExpression] at h
  cases hoperand : u.tree.child? n "operand" with
  | none => simp [hoperand] at h
  | some operand =>
    simp only [hoperand] at h
    split at h
    · next inner _ hliteral =>
      cases h
      exact ⟨operand, inner, rfl, hliteral, rfl⟩
    all_goals cases h

end Java

namespace Python

/-- A minus sign takes the opposite of the number after it. -/
theorem signedIntWithin?_of_unary (hkind : u.tree.kind n = "unary_operator") {height : Nat} :
    signedIntWithin? u (height + 1) n = some word ↔
      (u.tree.child? n "operator").map u.tree.text = some "-" ∧
        ∃ argument inner, u.tree.child? n "argument" = some argument ∧
          signedIntWithin? u height argument = some inner ∧ word = -inner := by
  simp only [signedIntWithin?, hkind, Option.bind_eq_bind, Option.bind_eq_some_iff,
    Option.guard_eq_some', exists_const, Option.pure_def, Option.some.injEq, beq_iff_eq,
    exists_and_left, eq_comm (a := word)]

/-- What has a value is a literal or a sign. -/
theorem kind_of_signedIntWithin? {height : Nat} (h : signedIntWithin? u height n = some word) :
    u.tree.kind n = "integer" ∨ u.tree.kind n = "unary_operator" := by
  cases height with
  | zero => cases h
  | succ height =>
    rw [signedIntWithin?] at h
    split at h
    case h_1 hkind => exact .inl hkind
    case h_2 hkind => exact .inr hkind
    case h_3 => cases h

/-- Any number of minus signs in front of an integer literal makes a number that has an opposite. -/
theorem isSymmetric_of_signedIntWithin? (hlanguage : u.language = .python) (hu : u.WritesIntegers)
    {height : Nat} (h : signedIntWithin? u height n = some word) : IsSymmetric word := by
  induction height generalizing n word with
  | zero => cases h
  | succ height ih =>
    rcases kind_of_signedIntWithin? h with hkind | hkind
    · simp only [signedIntWithin?, hkind] at h
      exact hu.isSymmetric (by rw [hlanguage, hkind]; rfl) (by rwa [hlanguage])
    · obtain ⟨-, _, inner, -, hinner, rfl⟩ := (signedIntWithin?_of_unary hkind).mp h
      exact (ih hinner).neg

/-- More height finds no other number. -/
theorem signedIntWithin?_succ {height : Nat} (h : signedIntWithin? u height n = some word) :
    signedIntWithin? u (height + 1) n = some word := by
  induction height generalizing n word with
  | zero => cases h
  | succ height ih =>
    rcases kind_of_signedIntWithin? h with hkind | hkind
    · simpa only [signedIntWithin?, hkind] using h
    · rw [signedIntWithin?_of_unary hkind] at h ⊢
      obtain ⟨hminus, argument, inner, hargument, hinner, heq⟩ := h
      exact ⟨hminus, argument, inner, hargument, ih hinner, heq⟩

/-- What follows a minus sign has the opposite of the value before it. -/
theorem of_signedInt?_of_unary (hkind : u.tree.kind n = "unary_operator")
    (h : signedInt? u n = some word) :
    (u.tree.child? n "operator").map u.tree.text = some "-" ∧
      ∃ argument inner, u.tree.child? n "argument" = some argument ∧
        signedInt? u argument = some inner ∧ word = -inner := by
  rw [signedInt?] at h
  cases hsize : u.tree.size with
  | zero =>
    rw [hsize] at h
    cases h
  | succ size =>
    rw [hsize, signedIntWithin?_of_unary hkind] at h
    obtain ⟨hminus, argument, inner, hargument, hinner, heq⟩ := h
    refine ⟨hminus, argument, inner, hargument, ?_, heq⟩
    rw [signedInt?, hsize]
    exact signedIntWithin?_succ hinner

theorem literalExpression_eq_int_iff {value : Option Int64} :
    literalExpression (value.map .int) = .literal (.int word) ↔ value = some word := by
  cases value <;> simp [literalExpression]

/-- An expression is an integer constant as a literal with any number of minus signs. -/
theorem expression_eq_int_iff :
    expression u n = .literal (.int word) ↔ signedInt? u n = some word := by
  constructor
  · intro h
    rw [expression] at h
    split at h
    case h_1 => exact literalExpression_eq_int_iff.mp h
    case h_2 | h_3 => cases hvalue : stringValue? u n <;> simp [literalExpression, hvalue] at h
    case h_6 => cases hvariable : resolveIdentifier? u n <;> simp [hvariable] at h
    case h_7 =>
      rw [attributeExpression] at h
      split at h
      · cases h
      · split at h <;> cases h
    case h_11 => cases hinner : (expressionsOf u n).head? <;> simp [hinner] at h
    case h_12 =>
      rw [unaryExpression] at h
      split at h
      · cases h
      · split at h
        · exact literalExpression_eq_int_iff.mp h
        all_goals cases h
    all_goals cases h
  · intro h
    rcases kind_of_signedIntWithin? h with hkind | hkind
    · simp only [expression, hkind]
      exact literalExpression_eq_int_iff.mpr h
    · obtain ⟨hminus, argument, -, hargument, -⟩ := of_signedInt?_of_unary hkind h
      simp only [expression, hkind, unaryExpression, hargument, hminus]
      exact literalExpression_eq_int_iff.mpr h

end Python

/-! ## Either language -/

namespace CompilationUnit

/-- Every integer constant that an expression denotes has an opposite. -/
theorem WritesIntegers.isSymmetric_of_expression (hu : u.WritesIntegers)
    (h : u.expression n = .literal (.int word)) : IsSymmetric word := by
  rw [expression] at h
  split at h
  · next hlanguage =>
    rcases Java.of_expression_eq_int h with hliteral | ⟨-, hunary⟩
    · exact Java.isSymmetric_of_literal? hlanguage hu hliteral
    · obtain ⟨_, _, -, hliteral, rfl⟩ := Java.of_unaryExpression_eq_int hunary
      exact (Java.isSymmetric_of_literal? hlanguage hu hliteral).neg
  · next hlanguage =>
    exact Python.isSymmetric_of_signedIntWithin? hlanguage hu (Python.expression_eq_int_iff.mp h)

/-- What is negated is a constant too, and its opposite is taken. -/
theorem Negates.of_expression (hneg : u.Negates n operand)
    (h : u.expression n = .literal (.int word)) :
    ∃ inner, u.expression operand = .literal (.int inner) ∧ word = -inner := by
  obtain ⟨-, hneg⟩ := hneg
  simp only [expression] at h ⊢
  cases hlanguage : u.language with
  | java =>
    simp only [hlanguage] at h hneg ⊢
    rcases Java.of_expression_eq_int h with hliteral | ⟨-, hunary⟩
    · simp [Java.literal?, Java.isIn, hneg.1, Category.holds, Category.kinds,
        Category.javaKinds] at hliteral
    · obtain ⟨operand', inner, hoperand, hliteral, heq⟩ := Java.of_unaryExpression_eq_int hunary
      cases hneg.2.symm.trans hoperand
      exact ⟨inner, by rw [Java.expression, hliteral], heq⟩
  | python =>
    simp only [hlanguage] at h hneg ⊢
    obtain ⟨-, argument, inner, hargument, hinner, heq⟩ :=
      Python.of_signedInt?_of_unary hneg.1 (Python.expression_eq_int_iff.mp h)
    cases hneg.2.symm.trans hargument
    exact ⟨inner, Python.expression_eq_int_iff.mpr hinner, heq⟩

/-- It is enough to look at the nodes of the tree. -/
theorem writesIntegers_of_lt_size
    (h : ∀ n < u.tree.size, Category.integerLiteral.holds u.language (u.tree.kind n) = true →
      ∃ radix digits, Literal.IsToken u.language radix digits (u.tree.text n)) :
    u.WritesIntegers := by
  intro n _ hkind _
  refine h n (Decidable.byContradiction fun hn => ?_) hkind
  have hnone : u.tree.kind n = "" := by
    rw [SyntaxTree.kind, Array.getElem?_eq_none (Nat.le_of_not_lt hn)]
    rfl
  rw [hnone] at hkind
  cases hlanguage : u.language <;> rw [hlanguage] at hkind <;> revert hkind <;> decide

end CompilationUnit

/-- **Integer literals never wrap.**  A literal denotes its positional value if that is a word, and
nothing otherwise, so never a negative number.  A minus sign in a unit whose integers are so written
makes the opposite of what is after it, which is a word as well, also when that is signed itself. -/
theorem integer_literals_never_wrap :
    (∀ language radix digits text, Literal.IsToken language radix digits text →
      (Literal.int? language text).map Int64.toInt =
          (if (positionalValue radix digits : Int) ≤ Int64.maxValue.toInt then
            some (positionalValue radix digits : Int)
          else none) ∧
        ∀ word, Literal.int? language text = some word → 0 ≤ word.toInt) ∧
      ∀ u : CompilationUnit, u.WritesIntegers → ∀ n operand, u.Negates n operand →
        (∀ value, u.expression operand = .literal (.int value) →
          (-value).toInt = -value.toInt) ∧
          ∀ value, u.expression n = .literal (.int value) →
            ∃ inner, u.expression operand = .literal (.int inner) ∧ value = -inner := by
  refine ⟨fun language radix digits text h => ⟨Literal.map_toInt_int? h, fun word hword =>
    Literal.toInt_nonneg_of_isToken h hword⟩, fun u hu n operand hneg => ⟨fun value h => ?_,
      fun value h => hneg.of_expression h⟩⟩
  exact (hu.isSymmetric_of_expression h).toInt_neg

/-! ## Two signs

In this program an integer has two signs:

    f(--1_0)
-/

namespace TwoSigns

/-- The nodes of the program. -/
def nodes : Array SyntaxNode := #[
  ⟨none, "module", true, none, ⟨1, 1, 0, 9⟩, "f(--1_0)\n"⟩,
  ⟨some 0, "expression_statement", true, none, ⟨1, 1, 0, 8⟩, "f(--1_0)"⟩,
  ⟨some 1, "call", true, none, ⟨1, 1, 0, 8⟩, "f(--1_0)"⟩,
  ⟨some 2, "identifier", true, some "function", ⟨1, 1, 0, 1⟩, "f"⟩,
  ⟨some 2, "argument_list", true, some "arguments", ⟨1, 2, 1, 8⟩, "(--1_0)"⟩,
  ⟨some 4, "(", false, none, ⟨1, 2, 1, 2⟩, "("⟩,
  ⟨some 4, "unary_operator", true, none, ⟨1, 3, 2, 7⟩, "--1_0"⟩,
  ⟨some 6, "-", false, some "operator", ⟨1, 3, 2, 3⟩, "-"⟩,
  ⟨some 6, "unary_operator", true, some "argument", ⟨1, 4, 3, 7⟩, "-1_0"⟩,
  ⟨some 8, "-", false, some "operator", ⟨1, 4, 3, 4⟩, "-"⟩,
  ⟨some 8, "integer", true, some "argument", ⟨1, 5, 4, 7⟩, "1_0"⟩,
  ⟨some 4, ")", false, none, ⟨1, 8, 7, 8⟩, ")"⟩]

/-- The unit with the program. -/
def unit : CompilationUnit where
  language := .python
  filePath := "m.py"
  tree := { nodes, parent_lt := by decide +kernel }

end TwoSigns

set_option maxRecDepth 100000 in
/-- The greatest word as a Java literal, and ten with two signs. -/
theorem greatest_word_and_two_signs :
    (Literal.int? .java "0x7fff_ffff_ffff_ffffL").map Int64.toInt = some (2 ^ 63 - 1) ∧
      TwoSigns.unit.expression 6 = .literal (.int 10) ∧
        ∃ inner, TwoSigns.unit.expression 8 = .literal (.int inner) ∧ (10 : Int64) = -inner ∧
          (-inner).toInt = -inner.toInt := by
  obtain ⟨hliteral, hsign⟩ := integer_literals_never_wrap
  have htoken : Literal.IsToken .java 16 (7 :: List.replicate 15 15) "0x7fff_ffff_ffff_ffffL" :=
    ⟨"0x7fff_ffff_ffff_ffff".toList, ['L'], by decide, by decide,
      .marked (by decide) (by decide) (by decide +kernel)⟩
  have hgreatest : (positionalValue 16 (7 :: List.replicate 15 15) : Int) = 2 ^ 63 - 1 := by
    decide +kernel
  have hten : Literal.IsToken .python 10 [1, 0] "1_0" :=
    ⟨"1_0".toList, [], by decide, by decide,
      .decimal (by decide) (by decide) (by decide +kernel)⟩
  have hwrites : TwoSigns.unit.WritesIntegers := by
    refine CompilationUnit.writesIntegers_of_lt_size fun n hn hkind => ⟨10, [1, 0], ?_⟩
    have hn' : n = 10 := by
      have hall : ∀ n < TwoSigns.unit.tree.size, Category.integerLiteral.holds .python
          (TwoSigns.unit.tree.kind n) = true → n = 10 := by decide +kernel
      exact hall n hn hkind
    subst hn'
    exact hten
  have hneg : TwoSigns.unit.Negates 6 8 :=
    ⟨by decide +kernel, by decide +kernel, by decide +kernel⟩
  have hvalue : TwoSigns.unit.expression 6 = .literal (.int 10) := by decide +kernel
  obtain ⟨hopposite, hinner⟩ := hsign TwoSigns.unit hwrites 6 8 hneg
  obtain ⟨inner, hexpression, heq⟩ := hinner 10 hvalue
  refine ⟨?_, hvalue, inner, hexpression, heq, hopposite inner hexpression⟩
  rw [(hliteral .java 16 _ _ htoken).1, hgreatest]
  decide

end CryptoUsage
