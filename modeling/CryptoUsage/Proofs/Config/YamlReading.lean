import CryptoUsage.Config.Yaml.Document
import CryptoUsage.Proofs.Syntax.DecimalNumerals
import Mathlib.Data.List.TakeDrop
import Mathlib.Data.Option.Basic

/-!
# One setting on a line

The plain way to write a configuration in YAML is a name, a colon and a value on each line.  A text
like that holds the table of its settings, in order (`document?_lines`), whatever their names and
values are as long as both are words, that is to say made of letters, digits and underscores.

## What is here

A text goes through four readers, and for each of them there is one lemma about lines.

* Characters: a word is one plain scalar up to the colon behind it or up to the end of its line
  (`plain?_name`, `plain?_value`), because no character of it is a mark (`ne_of_isWordChar`).
* Tokens: the scan is at the start of a line, in front of a colon or in front of a value (`atLine`,
  `atColon`, `atValue`), and goes from each of these to the next in one step.  A name is only known
  to be one at its colon, where the token for it is put in front of what was found meanwhile; the
  first colon of all puts the start of the mapping there, too (`value?_atColon`).  So a line takes
  three steps (`run_line`), and its tokens are added to those before it (`run_lines`, by induction
  on the lines).
* Nodes: the tokens of a line are a member of a mapping (`Node.members?_line`), and the tokens of
  all of them the mapping itself (`Node.ofTokens?_lines`).
* Settings: as no line has an anchor, each member is a setting by itself (`Node.settings?_lines`).

A name may begin in the first column only, so no indentation is ever compared with another one: all
open columns are zero, which is what `Lexer.closeWhile_eq` asks for.
-/

set_option autoImplicit false

namespace CryptoUsage
namespace Yaml

/-! ## Words -/

/-- Whether a character means nothing but itself wherever it stands. -/
def isWordChar (c : Char) : Bool := c.isAlphanum || c == '_'

/-- Characters that are read as one plain scalar. -/
structure IsWord (cs : List Char) : Prop where
  ne_nil : cs ≠ []
  chars : ∀ c ∈ cs, isWordChar c = true

variable {c : Char} {cs rest : List Char} {lexer : Lexer} {fuel : Nat}

theorem ne_of_isWordChar {d : Char} (hc : isWordChar c = true) (hd : isWordChar d = false) :
    c ≠ d := by
  rintro rfl
  rw [hc] at hd
  cases hd

theorem isGap_of_isWordChar (h : isWordChar c = true) : isGap c = false := by
  have hspace : c ≠ ' ' := ne_of_isWordChar h (by decide)
  have htab : c ≠ '\t' := ne_of_isWordChar h (by decide)
  have hline : c ≠ '\n' := ne_of_isWordChar h (by decide)
  simp [isGap, isSpace, hspace, htab, hline]

theorem toNat_of_isWordChar (h : isWordChar c = true) : 48 ≤ c.toNat ∧ c.toNat ≤ 122 := by
  change ((decide ('A'.val ≤ c.val ∧ c.val ≤ 'Z'.val) ||
    (decide ('a'.val ≤ c.val) && decide (c.val ≤ 'z'.val))) ||
    (decide ('0'.val ≤ c.val) && decide (c.val ≤ '9'.val)) || c == '_') = true at h
  simp only [Bool.or_eq_true, Bool.and_eq_true, decide_eq_true_eq, beq_iff_eq,
    UInt32.le_iff_toNat_le] at h
  change (((65 ≤ c.toNat ∧ c.toNat ≤ 90) ∨ (97 ≤ c.toNat ∧ c.toNat ≤ 122)) ∨
    (48 ≤ c.toNat ∧ c.toNat ≤ 57)) ∨ c = '_' at h
  rcases h with ((h | h) | h) | rfl
  · omega
  · omega
  · omega
  · decide

theorem utf8Size_of_isWordChar (h : isWordChar c = true) : c.utf8Size = 1 :=
  Char.utf8Size_eq_one_iff.mpr <| UInt32.le_iff_toNat_le.mpr <|
    Nat.le_trans (toNat_of_isWordChar h).2 (by decide)

/-! ## Places -/

namespace Cursor

theorem skip_add (cursor : Cursor) (m n : Nat) :
    cursor.skip (m + n) = (cursor.skip m).skip n := by
  induction m generalizing cursor with
  | zero => rw [Nat.zero_add, skip]
  | succ m ih => rw [Nat.succ_add, skip, ih, skip]

/-- The place behind a word is on its line. -/
theorem skip_word (hchars : ∀ c ∈ cs, isWordChar c = true) (line column offset : Nat) :
    (Cursor.mk (cs ++ rest) line column offset).skip cs.length =
      ⟨rest, line, column + cs.length, offset + cs.length⟩ := by
  induction cs generalizing column offset with
  | nil => rfl
  | cons c cs ih =>
    obtain ⟨hc, hcs⟩ := List.forall_mem_cons.mp hchars
    rw [List.length_cons, skip, List.cons_append, next]
    simp only [if_neg (ne_of_isWordChar hc (show isWordChar '\n' = false by decide)),
      utf8Size_of_isWordChar hc, ih hcs, Nat.add_assoc, Nat.add_comm 1]

theorem moveTo_word (hchars : ∀ c ∈ cs, isWordChar c = true) (rest : List Char)
    (line column offset : Nat) :
    (Cursor.mk (cs ++ rest) line column offset).moveTo rest =
      ⟨rest, line, column + cs.length, offset + cs.length⟩ := by
  rw [moveTo, List.length_append, Nat.add_sub_cancel]
  exact skip_word hchars line column offset

/-- The place behind a word and the end of its line is at the start of the next one. -/
theorem moveTo_line (hchars : ∀ c ∈ cs, isWordChar c = true) (rest : List Char)
    (line column offset : Nat) :
    (Cursor.mk (cs ++ '\n' :: rest) line column offset).moveTo rest =
      ⟨rest, line + 1, 0, offset + cs.length + 1⟩ := by
  have hlength : (cs ++ '\n' :: rest).length - rest.length = cs.length + 1 := by
    rw [List.length_append, List.length_cons]
    omega
  rw [moveTo, hlength, skip_add, skip_word hchars]
  rfl

end Cursor

/-! ## Plain scalars -/

/-- A word goes on as long as its characters do. -/
theorem plainWord?_word (hchars : ∀ c ∈ cs, isWordChar c = true)
    (hrest : plainWord? false rest = some ([], rest)) :
    plainWord? false (cs ++ rest) = some (cs, rest) := by
  induction cs with
  | nil => exact hrest
  | cons c cs ih =>
    obtain ⟨hc, hcs⟩ := List.forall_mem_cons.mp hchars
    have hcolon : (c == ':') = false := beq_eq_false_iff_ne.mpr (ne_of_isWordChar hc (by decide))
    simp only [List.cons_append, plainWord?, isGap_of_isWordChar hc, hcolon, ih hcs]
    simp

/-- What is left of a text begins with a word, if it is not over. -/
def StartsWord (cs : List Char) : Prop := ∀ c ∈ cs.head?, isWordChar c = true

theorem IsWord.startsWord (h : IsWord cs) : StartsWord (cs ++ rest) := by
  obtain ⟨c, cs, rfl⟩ := List.exists_cons_of_ne_nil h.ne_nil
  rintro d ⟨⟩
  exact h.chars c List.mem_cons_self

theorem takeWhile_isGap_eq (h : StartsWord rest) : ('\n' :: rest).takeWhile isGap = ['\n'] := by
  rw [List.takeWhile_cons_of_pos (by decide)]
  cases rest with
  | nil => rfl
  | cons c rest =>
    rw [List.takeWhile_cons_of_neg]
    rw [isGap_of_isWordChar (h c rfl)]
    decide

variable {indent : Nat}

theorem head?_ne_of_isWordChar (h : isWordChar c = true) : (some c == some '#') = false :=
  beq_eq_false_iff_ne.mpr fun heq => ne_of_isWordChar h (by decide) (Option.some.inj heq)

/-- A name is read up to the colon behind it. -/
theorem plain?_name (h : IsWord cs) :
    plain? false indent (cs ++ ':' :: ' ' :: rest) =
      some { text := cs, rest := ':' :: ' ' :: rest, endsLine := false } := by
  have hword : plainWord? false (cs ++ ':' :: ' ' :: rest) = some (cs, ':' :: ' ' :: rest) :=
    plainWord?_word h.chars rfl
  have hgap : (':' :: ' ' :: rest).takeWhile isGap = [] := rfl
  obtain ⟨c, cs, rfl⟩ := List.exists_cons_of_ne_nil h.ne_nil
  have hhash := head?_ne_of_isWordChar (h.chars c List.mem_cons_self)
  rw [plain?, plainFrom?, hword]
  simp only [Option.bind_eq_bind, Option.bind_some, hgap]
  simp [hhash, foldedGap]

/-- A value is read up to the end of its line. -/
theorem plain?_value (h : IsWord cs) (hrest : StartsWord rest) (hindent : 0 < indent) :
    plain? false indent (cs ++ '\n' :: rest) = some { text := cs, rest, endsLine := true } := by
  have hword : plainWord? false (cs ++ '\n' :: rest) = some (cs, '\n' :: rest) :=
    plainWord?_word h.chars rfl
  have hgap := takeWhile_isGap_eq hrest
  obtain ⟨c, cs, rfl⟩ := List.exists_cons_of_ne_nil h.ne_nil
  have hhash := head?_ne_of_isWordChar (h.chars c List.mem_cons_self)
  rw [plain?, plainFrom?, hword]
  simp only [Option.bind_eq_bind, Option.bind_some, hgap]
  simp [hhash, foldedGap, hasEarlyTab, hindent, guard]

/-! ## Tokens -/

theorem contains_eq_false (hc : isWordChar c = true) (marks : List Char)
    (hmarks : marks.any isWordChar = false) : marks.contains c = false := by
  rw [Bool.eq_false_iff, ne_eq, List.contains_iff_mem]
  exact fun hmem => List.any_eq_false.mp hmarks c hmem hc

theorem beginsPlain_of_isWordChar (h : isWordChar c = true) (inFlow : Bool) :
    beginsPlain inFlow (c :: cs) = true := by
  have hdash : c ≠ '-' := ne_of_isWordChar h (by decide)
  have hquestion : c ≠ '?' := ne_of_isWordChar h (by decide)
  have hcolon : c ≠ ':' := ne_of_isWordChar h (by decide)
  have hflow : isFlowMark c = false := contains_eq_false h _ rfl
  have hmark := contains_eq_false h "#&*!|>'\"%@\x60".toList rfl
  rw [beginsPlain, if_neg (by simp [hdash]), if_neg (by simp [hquestion, hcolon]),
    isGap_of_isWordChar h, hflow, hmark]
  rfl

theorem beginsMark_of_ne {d : Char} (h : c ≠ d) : beginsMark d (c :: cs) = false := by
  match cs with
  | [] | [_] => rfl
  | _ :: _ :: _ => simp [beginsMark, h]

namespace Lexer

/-- What begins like a word is a plain scalar. -/
theorem token?_of_isWordChar (h : isWordChar c = true) (cs : List Char) :
    lexer.token? c cs = lexer.plainScalar? := by
  have hpercent : c ≠ '%' := ne_of_isWordChar h (by decide)
  have hdash : beginsMark '-' (c :: cs) = false :=
    beginsMark_of_ne (ne_of_isWordChar h (by decide))
  have hdot : beginsMark '.' (c :: cs) = false :=
    beginsMark_of_ne (ne_of_isWordChar h (by decide))
  rw [token?, if_neg (fun hmark => hpercent hmark.2), if_neg (by simp [hdash]),
    if_neg (by simp [hdot])]
  -- no mark is a character of a word
  all_goals
    rintro rfl
    exact absurd h (by decide)

/-- A plain scalar is found where a word begins. -/
theorem plainScalar?_eq (lexer : Lexer) {lexer' : Lexer} {found : PlainText}
    (hrest : lexer.place.rest = c :: cs)
    (hc : isWordChar c = true) (hset : lexer.setCandidate? = some lexer')
    (hplain : plain? lexer'.inFlow lexer'.level lexer'.place.rest = some found) :
    lexer.plainScalar? = some
      { lexer'.emit (.scalar .plain (String.ofList found.text)) found.rest with
        mayBegin := found.endsLine } := by
  have hbegins : beginsPlain lexer.inFlow lexer.place.rest = true := by
    rw [hrest]
    exact beginsPlain_of_isWordChar hc _
  simp only [plainScalar?, hbegins, hset, Option.bind_eq_bind, Option.bind_some, hplain]
  rfl

/-- Nothing stands between a place and a word or a colon that begins there. -/
theorem toNextToken_eq (hrest : lexer.place.rest = c :: cs)
    (hc : isWordChar c = true ∨ c = ':') : lexer.toNextToken (fuel + 1) = lexer := by
  have hne {d : Char} (hd : isWordChar d = false) (hcolon : d ≠ ':') : c ≠ d := by
    rcases hc with hc | rfl
    · exact ne_of_isWordChar hc hd
    · exact hcolon.symm
  have hspace : c ≠ ' ' := hne (by decide) (by decide)
  have htab : c ≠ '\t' := hne (by decide) (by decide)
  have hbom : c ≠ '\uFEFF' := hne (by decide) (by decide)
  have hline : c ≠ '\n' := hne (by decide) (by decide)
  have hhash : c ≠ '#' := hne (by decide) (by decide)
  rw [toNextToken, hrest]
  simp [hspace, htab, hbom, hline, hhash]

/-- No block is closed by what is in it. -/
theorem closeWhile_eq (hcolumns : ∀ k ∈ lexer.columns, k = 0) (column : Nat) :
    lexer.closeWhile (column < ·) = lexer := by
  have hspan : lexer.columns.span (column < ·) = ([], lexer.columns) := by
    cases hcons : lexer.columns with
    | nil => rfl
    | cons k columns =>
      have hk := hcolumns k (hcons ▸ List.mem_cons_self)
      rw [List.span_eq_takeWhile_dropWhile, List.takeWhile_cons_of_neg (by simp [hk]),
        List.dropWhile_cons_of_neg (by simp [hk])]
  rw [closeWhile, hspan]
  split
  · rfl
  · simp

/-- One more token is found, if nothing is given up or closed before it. -/
theorem run_succ (lexer : Lexer) {lexer' : Lexer}
    (hnext : lexer.toNextToken (lexer.place.rest.length + 1) = lexer')
    (hpast : lexer'.dropPast? = some lexer') (hcolumns : ∀ k ∈ lexer'.columns, k = 0)
    (hrest : lexer'.place.rest = c :: cs) :
    lexer.run (fuel + 1) = (lexer'.token? c cs).bind (run fuel) := by
  rw [run, hnext, hpast, Option.bind_eq_bind, Option.bind_some, closeWhile_eq hcolumns]
  simp only [hrest]

end Lexer

/-! ## Lines -/

/-- A name, and the word that is its value. -/
structure Line where
  name : List Char
  value : List Char

namespace Line

/-- The text of a line. -/
def text (line : Line) : List Char := line.name ++ ':' :: ' ' :: (line.value ++ ['\n'])

/-- The tokens of a line. -/
def tokens (line : Line) : List Token :=
  [.key, .scalar .plain (String.ofList line.name), .value,
    .scalar .plain (String.ofList line.value)]

/-- The member that a line is. -/
def member (line : Line) : Node × Node :=
  (.scalar none { style := .plain, text := String.ofList line.name },
    .scalar none { style := .plain, text := String.ofList line.value })

/-- Both are words, and the name is not too long to be one. -/
structure IsPlain (line : Line) : Prop where
  name : IsWord line.name
  length : line.name.length ≤ 1024
  value : IsWord line.value

end Line

/-- A scan for tokens that stands at the start of a line. -/
def atLine (tokens : List Token) (columns : List Nat) (line offset : Nat) (rest : List Char) :
    Lexer :=
  { place := { rest, line, column := 0, offset }, tokens := tokens.toArray, columns }

/-- A scan that stands behind the name with which a line begins. -/
def atColon (tokens : List Token) (columns : List Nat) (line offset : Nat)
    (name rest : List Char) : Lexer :=
  { place := { rest, line, column := name.length, offset := offset + name.length }
    tokens := (tokens ++ [Token.scalar .plain (String.ofList name)]).toArray
    columns
    mayBegin := false
    candidate := some {
      index := tokens.length
      place := { rest := name ++ rest, line, column := 0, offset }
      required := columns.head? == some 0 } }

/-- A scan that stands in front of a value. -/
def atValue (tokens : List Token) (line column offset : Nat) (rest : List Char) : Lexer :=
  { place := { rest, line, column, offset }, tokens := tokens.toArray, columns := [0]
    mayBegin := false }

variable {tokens : List Token} {columns : List Nat} {line column offset : Nat}
  {name value : List Char}

/-- A name is found at the start of a line, and may turn out to be one. -/
theorem run_atLine (h : IsWord name) (hcolumns : ∀ k ∈ columns, k = 0) :
    (atLine tokens columns line offset (name ++ ':' :: ' ' :: rest)).run (fuel + 1) =
      (atColon tokens columns line offset name (':' :: ' ' :: rest)).run fuel := by
  obtain ⟨c, cs, hname⟩ := List.exists_cons_of_ne_nil h.ne_nil
  have hc : isWordChar c = true := h.chars c (hname ▸ List.mem_cons_self)
  have hrest : name ++ ':' :: ' ' :: rest = c :: (cs ++ ':' :: ' ' :: rest) := by
    rw [hname, List.cons_append]
  have hmove := Cursor.moveTo_word h.chars (':' :: ' ' :: rest) line 0 offset
  have hfound := Lexer.plainScalar?_eq
    (atLine tokens columns line offset (name ++ ':' :: ' ' :: rest)) hrest hc rfl
    (plain?_name h)
  rw [Lexer.run_succ _ (Lexer.toNextToken_eq hrest (.inl hc)) rfl hcolumns hrest,
    Lexer.token?_of_isWordChar hc, hfound, Option.bind_some]
  simp only [Lexer.emit, atLine, hmove, Nat.zero_add, List.push_toArray]
  rfl

/-- No block is open but a mapping at the margin. -/
theorem columns_zero (hcolumns : columns = [] ∨ columns = [0]) : ∀ k ∈ columns, k = 0 := by
  rcases hcolumns with rfl | rfl
  · exact fun _ hk => absurd hk List.not_mem_nil
  · exact fun _ hk => List.mem_singleton.mp hk

/-- What stands in front of the first name of a mapping. -/
def opening (columns : List Nat) : List Token := if columns = [] then [.blockMappingStart] else []

/-- Tokens are put in front of those that were found after the first ones. -/
theorem insertIdx_append (tokens found : List Token) (token : Token) :
    (tokens ++ found).insertIdx tokens.length token = tokens ++ token :: found := by
  induction tokens with
  | nil => rfl
  | cons first tokens ih => rw [List.cons_append, List.length_cons, List.insertIdx_succ_cons, ih,
      List.cons_append]

theorem value?_atColon (hcolumns : columns = [] ∨ columns = [0]) :
    (atColon tokens columns line offset name (':' :: ' ' :: rest)).value? =
      some (atValue (tokens ++ opening columns ++
        [.key, .scalar .plain (String.ofList name), .value]) line (name.length + 1)
        (offset + name.length + 1) (' ' :: rest)) := by
  have hcolon : ':'.utf8Size = 1 := rfl
  rcases hcolumns with rfl | rfl <;>
    simp [Lexer.value?, atColon, Lexer.openBlock, Lexer.inFlow, Lexer.level, Lexer.mark,
      Cursor.skip, Cursor.next, atValue, opening, insertIdx_append, hcolon]

/-- The colon shows that the name is one, and the first one opens the mapping. -/
theorem run_atColon (h : IsWord name) (hlength : name.length ≤ 1024)
    (hcolumns : columns = [] ∨ columns = [0]) :
    (atColon tokens columns line offset name (':' :: ' ' :: rest)).run (fuel + 1) =
      (atValue (tokens ++ opening columns ++
        [.key, .scalar .plain (String.ofList name), .value]) line (name.length + 1)
        (offset + name.length + 1) (' ' :: rest)).run fuel := by
  have hpast : (atColon tokens columns line offset name (':' :: ' ' :: rest)).dropPast? =
      some (atColon tokens columns line offset name (':' :: ' ' :: rest)) := by
    simp [Lexer.dropPast?, atColon, Candidate.isOver, hlength, guard]
  have hmargin : (atColon tokens columns line offset name (':' :: ' ' :: rest)).place.column ≠ 0 :=
    fun hzero => h.ne_nil (List.length_eq_zero_iff.mp hzero)
  have htoken : (atColon tokens columns line offset name (':' :: ' ' :: rest)).token? ':'
      (' ' :: rest) = (atColon tokens columns line offset name (':' :: ' ' :: rest)).value? := by
    rw [Lexer.token?, if_neg (fun hmark => hmargin hmark.1), if_neg (fun hmark => hmargin hmark.1),
      if_neg (fun hmark => hmargin hmark.1)]
    rfl
  rw [Lexer.run_succ _ (Lexer.toNextToken_eq rfl (.inr rfl)) hpast (columns_zero hcolumns) rfl,
    htoken, value?_atColon hcolumns, Option.bind_some]

/-- A value is found up to the end of its line. -/
theorem run_atValue (h : IsWord value) (hrest : StartsWord rest) :
    (atValue tokens line column offset (' ' :: (value ++ '\n' :: rest))).run (fuel + 1) =
      (atLine (tokens ++ [.scalar .plain (String.ofList value)]) [0] (line + 1)
        (offset + 1 + value.length + 1) rest).run fuel := by
  obtain ⟨c, cs, hvalue⟩ := List.exists_cons_of_ne_nil h.ne_nil
  have hc : isWordChar c = true := h.chars c (hvalue ▸ List.mem_cons_self)
  have hline : value ++ '\n' :: rest = c :: (cs ++ '\n' :: rest) := by
    rw [hvalue, List.cons_append]
  have hmove := Cursor.moveTo_line h.chars rest line (column + 1) (offset + 1)
  have hnext : (atValue tokens line column offset (' ' :: (value ++ '\n' :: rest))).toNextToken
      ((' ' :: (value ++ '\n' :: rest)).length + 1) =
        atValue tokens line (column + 1) (offset + 1) (value ++ '\n' :: rest) := by
    rw [Lexer.toNextToken]
    exact Lexer.toNextToken_eq hline (.inl hc)
  have hfound := Lexer.plainScalar?_eq
    (atValue tokens line (column + 1) (offset + 1) (value ++ '\n' :: rest)) hline hc rfl
    (plain?_value h hrest (Nat.succ_pos 0))
  rw [Lexer.run_succ (atValue tokens line column offset (' ' :: (value ++ '\n' :: rest))) hnext rfl
    (by simp [atValue]) hline, Lexer.token?_of_isWordChar hc, hfound, Option.bind_some]
  simp only [Lexer.emit, atValue, hmove, List.push_toArray]
  rfl

variable {lines : List Line} {first : Line}

theorem startsWord_text (hlines : ∀ line ∈ lines, line.IsPlain) :
    StartsWord (lines.flatMap Line.text) := by
  cases lines with
  | nil => exact nofun
  | cons first lines =>
    rw [List.flatMap_cons, Line.text, List.append_assoc]
    exact (hlines first List.mem_cons_self).name.startsWord

/-- A line takes three steps. -/
theorem run_line (hfirst : first.IsPlain) (hrest : StartsWord rest)
    (hcolumns : columns = [] ∨ columns = [0]) :
    (atLine tokens columns line offset (first.text ++ rest)).run (fuel + 3) =
      (atLine (tokens ++ opening columns ++ first.tokens) [0] (line + 1)
        (offset + first.text.length) rest).run fuel := by
  have htext : first.text ++ rest = first.name ++ ':' :: ' ' :: (first.value ++ '\n' :: rest) := by
    rw [Line.text, List.append_assoc, List.cons_append, List.cons_append, List.append_assoc,
      List.singleton_append]
  have hoffset : offset + first.text.length =
      offset + first.name.length + 1 + 1 + first.value.length + 1 := by
    simp only [Line.text, List.length_append, List.length_cons, List.length_nil]
    omega
  rw [htext, run_atLine hfirst.name (columns_zero hcolumns),
    run_atColon hfirst.name hfirst.length hcolumns, run_atValue hfirst.value hrest,
    List.append_assoc, hoffset]
  rfl

/-- The tokens of lines are found one line after the other, and the mapping ends with the text. -/
theorem run_lines (hlines : ∀ line ∈ lines, line.IsPlain) (hfuel : 3 * lines.length < fuel) :
    (atLine tokens [0] line offset (lines.flatMap Line.text)).run fuel =
      some (tokens ++ lines.flatMap Line.tokens ++ [Token.blockEnd]).toArray := by
  induction lines generalizing tokens line offset fuel with
  | nil =>
    obtain ⟨fuel, rfl⟩ := Nat.exists_eq_add_one_of_ne_zero (Nat.ne_zero_of_lt hfuel)
    have hend : (atLine tokens [0] line offset []).run (fuel + 1) =
        some ((tokens.toArray ++ #[]) ++ #[Token.blockEnd]) := rfl
    rw [List.flatMap_nil, hend, Array.append_empty, List.append_toArray, List.flatMap_nil,
      List.append_nil]
  | cons first lines ih =>
    obtain ⟨hfirst, hlines⟩ := List.forall_mem_cons.mp hlines
    rw [List.length_cons] at hfuel
    obtain ⟨fuel, rfl⟩ := Nat.exists_eq_add_of_le' (show 3 ≤ fuel by omega)
    rw [List.flatMap_cons, run_line hfirst (startsWord_text hlines) (.inr rfl),
      ih hlines (by omega), opening, if_neg (List.cons_ne_nil _ _), List.append_nil,
      List.flatMap_cons, List.append_assoc tokens]

theorem length_text_lines (lines : List Line) :
    3 * lines.length ≤ (lines.flatMap Line.text).length := by
  induction lines with
  | nil => exact Nat.le_refl _
  | cons first lines ih =>
    rw [List.flatMap_cons, List.length_append, List.length_cons, Line.text, List.length_append,
      List.length_cons, List.length_cons, List.length_append, List.length_singleton]
    omega

theorem tokens?_lines (hlines : ∀ line ∈ lines, line.IsPlain) (hne : lines ≠ []) :
    tokens? (lines.flatMap Line.text) =
      some (.blockMappingStart :: lines.flatMap Line.tokens ++ [.blockEnd]) := by
  have hlength := length_text_lines lines
  obtain ⟨first, lines, rfl⟩ := List.exists_cons_of_ne_nil hne
  rw [List.length_cons] at hlength
  obtain ⟨hfirst, hlines⟩ := List.forall_mem_cons.mp hlines
  have hrun : (atLine [] [] 0 0 ((first :: lines).flatMap Line.text)).run
      (((first :: lines).flatMap Line.text).length + 1) =
        some (.blockMappingStart :: (first :: lines).flatMap Line.tokens ++
          [Token.blockEnd]).toArray := by
    obtain ⟨fuel, hfuel⟩ := Nat.exists_eq_add_of_le'
      (show 3 ≤ ((first :: lines).flatMap Line.text).length + 1 by omega)
    rw [hfuel, List.flatMap_cons, run_line hfirst (startsWord_text hlines) (.inl rfl),
      run_lines hlines (by omega)]
    rfl
  rw [tokens?]
  exact congrArg (Option.map Array.toList) hrun

/-! ## Nodes -/

namespace Node

/-- A line is read as a name and a value, scalars without anchors or tags. -/
theorem members?_line (handles : TagHandles) (first : Line) (rest : List Token) :
    members? handles (fuel + 4) (first.tokens ++ rest) =
      (members? handles (fuel + 3) rest).map fun (members, rest) =>
        (first.member :: members, rest) := by
  have hstep : members? handles (fuel + 4) (first.tokens ++ rest) =
      (members? handles (fuel + 3) rest).bind fun (members, rest) =>
        some (first.member :: members, rest) := rfl
  rw [hstep]
  cases members? handles (fuel + 3) rest <;> rfl

theorem members?_lines (handles : TagHandles) (rest : List Token)
    (hfuel : lines.length + 3 < fuel) :
    members? handles fuel (lines.flatMap Line.tokens ++ .blockEnd :: rest) =
      some (lines.map Line.member, rest) := by
  induction lines generalizing fuel with
  | nil =>
    obtain ⟨fuel, rfl⟩ := Nat.exists_eq_add_one_of_ne_zero (Nat.ne_zero_of_lt hfuel)
    rfl
  | cons first lines ih =>
    rw [List.length_cons] at hfuel
    obtain ⟨fuel, rfl⟩ := Nat.exists_eq_add_of_le' (show 4 ≤ fuel by omega)
    rw [List.flatMap_cons, List.append_assoc, members?_line, ih (by omega)]
    rfl

/-- Lines are the members of a mapping. -/
theorem ofTokens?_lines (lines : List Line) :
    ofTokens? (.blockMappingStart :: lines.flatMap Line.tokens ++ [.blockEnd]) =
      some (mapping none (lines.map Line.member)) := by
  have hlength : lines.length ≤ (lines.flatMap Line.tokens).length := by
    induction lines with
    | nil => exact Nat.le_refl _
    | cons first lines ih =>
      rw [List.flatMap_cons, List.length_append, List.length_cons]
      exact Nat.add_comm lines.length 1 ▸ Nat.add_le_add (Nat.le_add_left 1 3) ih
  have hfuel : lines.length + 3 <
      4 * (.blockMappingStart :: lines.flatMap Line.tokens ++ [Token.blockEnd]).length + 3 := by
    rw [List.length_append, List.length_cons, List.length_singleton]
    omega
  have hdocument : document? (.blockMappingStart :: lines.flatMap Line.tokens ++ [.blockEnd]) =
      (members? standardHandles
        (4 * (.blockMappingStart :: lines.flatMap Line.tokens ++ [Token.blockEnd]).length + 3)
        (lines.flatMap Line.tokens ++ [.blockEnd])).bind fun (members, rest) =>
          some (mapping none members, rest) := rfl
  rw [ofTokens?, hdocument, members?_lines standardHandles [] hfuel]
  rfl

/-- There are no anchors in lines. -/
theorem anchorsOfMembers?_lines (anchors : Anchors) (lines : List Line) :
    anchorsOfMembers? anchors (lines.map Line.member) = some anchors := by
  induction lines with
  | nil => rfl
  | cons first lines ih =>
    rw [List.map_cons, Line.member, anchorsOfMembers?]
    exact ih

theorem settings?_lines (before all : Anchors) (lines : List Line) :
    settings? before all (lines.map Line.member) =
      some (lines.map fun line => (String.ofList line.name,
        Scalar.value { style := .plain, text := String.ofList line.value })) := by
  induction lines with
  | nil => rfl
  | cons first lines ih =>
    have hstep : settings? before all (first.member :: lines.map Line.member) =
        (settings? before all (lines.map Line.member)).bind fun settings =>
          some ((String.ofList first.name,
            Scalar.value { style := .plain, text := String.ofList first.value }) :: settings) := rfl
    rw [List.map_cons, hstep, ih]
    rfl

/-- The mapping that lines are is a table of settings. -/
theorem toDocument?_lines (lines : List Line) :
    toDocument? (mapping none (lines.map Line.member)) =
      some (.table (lines.map fun line => (String.ofList line.name,
        Scalar.value { style := .plain, text := String.ofList line.value }))) := by
  have hstep : toDocument? (mapping none (lines.map Line.member)) =
      (anchorsOfMembers? {} (lines.map Line.member)).bind fun all =>
        (settings? {} all (lines.map Line.member)).bind fun settings =>
          some (.table settings) := rfl
  rw [hstep, anchorsOfMembers?_lines, Option.bind_some, settings?_lines, Option.bind_some]

end Node

/-! ## Documents -/

theorem normalized_eq (h : ∀ c ∈ cs, isWordChar c = true ∨ c = ':' ∨ c = ' ' ∨ c = '\n') :
    normalized cs = cs := by
  induction cs with
  | nil => rfl
  | cons c cs ih =>
    obtain ⟨hc, hcs⟩ := List.forall_mem_cons.mp h
    have hne : ['\r', '\x85', '\u2028', '\u2029'].contains c = false := by
      rcases hc with hc | rfl | rfl | rfl
      · exact contains_eq_false hc _ rfl
      all_goals rfl
    have hreturn : c ≠ '\r' := by
      rintro rfl
      exact absurd hc (by decide)
    rw [normalized, hne, if_neg Bool.false_ne_true, ih hcs]
    rintro cs' rfl
    exact absurd rfl hreturn

theorem isPrintable_of (h : isWordChar c = true ∨ c = ':' ∨ c = ' ' ∨ c = '\n') :
    isPrintable c = true := by
  rcases h with h | rfl | rfl | rfl
  · have hrange := toNat_of_isWordChar h
    simp [isPrintable]
    omega
  all_goals decide

/-- **A text of lines holds the table of their settings.** -/
theorem document?_lines (hlines : ∀ line ∈ lines, line.IsPlain) (hne : lines ≠ []) :
    document? (String.ofList (lines.flatMap Line.text)) =
      some (.table (lines.map fun line => (String.ofList line.name,
        Scalar.value { style := .plain, text := String.ofList line.value }))) := by
  have hchars : ∀ c ∈ lines.flatMap Line.text,
      isWordChar c = true ∨ c = ':' ∨ c = ' ' ∨ c = '\n' := by
    intro c hc
    obtain ⟨line, hline, hc⟩ := List.mem_flatMap.mp hc
    have hplain := hlines line hline
    simp only [Line.text, List.mem_append, List.mem_cons, List.not_mem_nil, or_false] at hc
    rcases hc with hc | rfl | rfl | hc | rfl
    · exact .inl (hplain.name.chars c hc)
    · exact .inr (.inl rfl)
    · exact .inr (.inr (.inl rfl))
    · exact .inl (hplain.value.chars c hc)
    · exact .inr (.inr (.inr rfl))
  have hprintable : (lines.flatMap Line.text).all isPrintable = true :=
    List.all_eq_true.mpr fun c hc => isPrintable_of (hchars c hc)
  simp only [document?, String.toList_ofList, normalized_eq hchars, hprintable,
    tokens?_lines hlines hne]
  exact (congrArg (·.bind Node.toDocument?) (Node.ofTokens?_lines lines)).trans
    (Node.toDocument?_lines lines)

end Yaml
end CryptoUsage
