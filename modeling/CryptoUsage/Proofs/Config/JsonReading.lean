import CryptoUsage.Config.JsonText
import CryptoUsage.Program.Json
import CryptoUsage.Proofs.Syntax.DecimalNumerals
import Mathlib.Data.Option.Basic

/-!
# JSON is read as it is written

A report is written with `Json.render`, and a configuration is read with `JsonText.document?`.  The
reader keeps less than was written: of a document it wants the table or the list at the top, and of
what is in there only natural numbers and truth values.  `Json.document` and `Json.setting` say what
is left of a document, and the main result is that nothing else gets lost on the way: the text that
was written for a document holds what is left of it.

## What is here

* `code?_escape`, `codes?_text` and `ofCodes?_map_toNat`: a text is read up to the quote behind it,
  character by character, whether a character was escaped or not.
* `number?_toString`: a number is read up to the first character that cannot belong to it.  This
  needs to know what stands behind a number, and in a document that is a comma, a closing bracket or
  nothing (`EndsValue`).
* `Reads`: what is claimed of a document, with a bound on the fuel.  It holds of lists and tables if
  it holds of what is in them (`reads_arr`, `reads_obj`), where the text between the brackets is
  taken apart by `Json.itemsText_cons_cons` and `Json.membersText_cons_cons`; and so it holds of
  every document (`reads`), by induction on its size.
* `document?_render`: the result for a whole text.

No blanks are written, so it is enough to know that the readers pass over none where a document
begins (`BeginsValue`).
-/

set_option autoImplicit false

namespace CryptoUsage

namespace Json

/-- What a document is as the value of a setting. -/
def setting : Json → SettingValue
  | bool b => .truth b
  | num (.ofNat n) => .ofNumeral n
  | _ => .other

/-- What a document says of settings. -/
def document : Json → Document
  | arr items => .list (items.map setting)
  | obj members => .table (members.map fun (name, value) => (name, value.setting))
  | _ => .single

/-- The text of items between their brackets. -/
def itemsText (items : List Json) : List Char := (",".intercalate (renderItems items)).toList

/-- The text of members between their braces. -/
def membersText (members : List (String × Json)) : List Char :=
  (",".intercalate (renderMembers members)).toList

theorem itemsText_singleton (item : Json) : itemsText [item] = item.render.toList := by
  rw [itemsText, renderItems, renderItems, String.intercalate_singleton]

theorem itemsText_cons_cons (item next : Json) (items : List Json) :
    itemsText (item :: next :: items) = item.render.toList ++ ',' :: itemsText (next :: items) := by
  simp only [itemsText, renderItems, String.intercalate_cons_cons, String.toList_append,
    List.append_assoc]
  rfl

theorem membersText_singleton (name : String) (value : Json) :
    membersText [(name, value)] = (quote name).toList ++ ':' :: value.render.toList := by
  simp only [membersText, renderMembers, String.intercalate_singleton, String.toList_append,
    List.append_assoc]
  rfl

theorem membersText_cons_cons (name : String) (value : Json) (next : String × Json)
    (members : List (String × Json)) :
    membersText ((name, value) :: next :: members) =
      (quote name).toList ++ ':' :: (value.render.toList ++ ',' :: membersText (next :: members))
    := by
  simp only [membersText, renderMembers, String.intercalate_cons_cons, String.toList_append,
    List.append_assoc]
  rfl

theorem toList_render_arr (items : List Json) :
    (arr items).render.toList = '[' :: (itemsText items ++ [']']) := by
  rw [render, String.toList_append, String.toList_append]
  rfl

theorem toList_render_obj (members : List (String × Json)) :
    (obj members).render.toList = '\x7b' :: (membersText members ++ ['\x7d']) := by
  rw [render, String.toList_append, String.toList_append]
  rfl

end Json

namespace JsonText

variable {c : Char} {cs rest : List Char} {fuel : Nat}

/-! ## Texts -/

theorem digitValue?_hexDigit (n : Nat) :
    Numeral.digitValue? 16 (Json.hexDigit n) = some (n % 16) := by
  have hall : ∀ k : Fin 16, Numeral.digitValue? 16 (Nat.digitChar k) = some k.val := by decide
  exact hall ⟨n % 16, Nat.mod_lt n (by decide)⟩

/-- A character is read as it is escaped. -/
theorem code?_escape (c : Char) (rest : List Char) :
    code? (Json.escape c ++ rest) = some (c.toNat, rest) := by
  unfold Json.escape
  split
  case h_8 _ hbackslash _ _ _ _ _ =>
    split
    · have hzero : Numeral.digitValue? 16 '0' = some 0 := by decide
      have hcode : (((0 * 16 + 0) * 16 + c.toNat / 16 % 16) * 16 + c.toNat % 16) = c.toNat := by
        omega
      simp only [List.cons_append, List.nil_append, code?, fourDigits?, hzero,
        digitValue?_hexDigit, Option.bind_eq_bind, Option.bind_some, hcode]
      rfl
    · next hprintable =>
      rw [List.singleton_append, code?.eq_def]
      split
      · next heq => exact absurd (List.cons.inj heq).1 hbackslash
      · next heq => exact absurd (List.cons.inj heq).1 hbackslash
      · next heq => exact absurd (List.cons.inj heq).1 hbackslash
      · next heq =>
        obtain ⟨rfl, rfl⟩ := List.cons.inj heq
        rw [if_neg hprintable]
      · next heq => cases heq
  all_goals rfl

theorem exists_escape_eq (c : Char) : ∃ d tail, Json.escape c = d :: tail ∧ d ≠ '"' := by
  unfold Json.escape
  split
  case h_8 hquote _ _ _ _ _ _ =>
    split
    · exact ⟨_, _, rfl, by decide⟩
    · exact ⟨_, _, rfl, hquote⟩
  all_goals exact ⟨_, _, rfl, by decide⟩

/-- A text is read up to the quote behind it. -/
theorem codes?_escape (text rest : List Char) (hfuel : text.length < fuel) :
    codes? fuel (text.flatMap Json.escape ++ '"' :: rest) =
      some (text.map Char.toNat, rest) := by
  induction text generalizing fuel with
  | nil =>
    obtain ⟨fuel, rfl⟩ := Nat.exists_eq_add_one_of_ne_zero (Nat.ne_of_gt hfuel)
    rfl
  | cons c text ih =>
    obtain ⟨fuel, rfl⟩ := Nat.exists_eq_add_one_of_ne_zero (Nat.ne_zero_of_lt hfuel)
    obtain ⟨d, tail, hescape, hd⟩ := exists_escape_eq c
    have hcode := code?_escape c (text.flatMap Json.escape ++ '"' :: rest)
    rw [List.flatMap_cons, List.append_assoc]
    rw [hescape, List.cons_append] at hcode ⊢
    rw [codes?]
    · rw [hcode]
      simp only [Option.bind_eq_bind, Option.bind_some, ih (Nat.lt_of_succ_lt_succ hfuel)]
      rfl
    · intro tail' heq
      exact hd (List.cons.inj heq).1

/-- Every character of a text is written with at least one, so its characters are fuel enough. -/
theorem codes?_text (text rest : List Char) :
    codes? (text.flatMap Json.escape ++ '"' :: rest).length
      (text.flatMap Json.escape ++ '"' :: rest) = some (text.map Char.toNat, rest) := by
  have hle : text.length ≤ (text.flatMap Json.escape).length := by
    induction text with
    | nil => exact Nat.le_refl _
    | cons c text ih =>
      obtain ⟨d, tail, hescape, -⟩ := exists_escape_eq c
      rw [List.flatMap_cons, List.length_append, hescape, List.length_cons, List.length_cons]
      omega
  refine codes?_escape text rest ?_
  rw [List.length_append, List.length_cons]
  omega

/-- No character is half of a surrogate pair. -/
theorem ofCodes?_map_toNat (text : List Char) : ofCodes? (text.map Char.toNat) = some text := by
  have hvalid (c : Char) : c.toNat < 0xD800 ∨ 0xDFFF < c.toNat := by
    rcases c.valid with h | h
    · exact .inl h
    · exact .inr h.1
  induction text with
  | nil => rfl
  | cons c text ih =>
    cases text with
    | nil =>
      have hc := hvalid c
      rw [List.map_singleton, ofCodes?, if_neg (by omega), Char.ofNat_toNat]
    | cons d text =>
      have hc := hvalid c
      rw [List.map_cons] at ih
      rw [List.map_cons, List.map_cons, ofCodes?, if_neg (by omega), if_neg (by omega), ih,
        Option.map_some, Char.ofNat_toNat]

/-! ## Numbers -/

/-- What may stand behind a value: nothing, a comma or a closing bracket. -/
def EndsValue : List Char → Prop
  | [] => True
  | c :: _ => c = ',' ∨ c = ']' ∨ c = '\x7d'

theorem EndsValue.number_eq (h : EndsValue rest) :
    beginsWithDigit rest = false ∧ afterFraction? rest = some rest ∧
      afterExponent? rest = some rest := by
  cases rest with
  | nil => exact ⟨rfl, rfl, rfl⟩
  | cons c rest => obtain rfl | rfl | rfl := h <;> exact ⟨rfl, rfl, rfl⟩

theorem span_toDigits (n : Nat) (h : beginsWithDigit rest = false) :
    (Nat.toDigits 10 n ++ rest).takeWhile Char.isDigit = Nat.toDigits 10 n ∧
      (Nat.toDigits 10 n ++ rest).dropWhile Char.isDigit = rest := by
  have hdigits := (Numeral.isNatural_toDigits n).isDigit
  rw [List.takeWhile_append_of_pos hdigits, List.dropWhile_append_of_pos hdigits]
  cases rest with
  | nil => exact ⟨List.append_nil _, rfl⟩
  | cons c rest =>
    have hc : ¬ c.isDigit = true := Bool.eq_false_iff.mp h
    rw [List.takeWhile_cons_of_neg hc, List.dropWhile_cons_of_neg hc]
    exact ⟨List.append_nil _, rfl⟩

/-- A number is written without superfluous zeros. -/
theorem wholeDigits?_toDigits (n : Nat) (h : beginsWithDigit rest = false) :
    wholeDigits? (Nat.toDigits 10 n ++ rest) = some (Nat.toDigits 10 n, rest) := by
  by_cases hn : n = 0
  · subst hn
    rw [Nat.toDigits_zero, List.singleton_append, wholeDigits?, if_neg (by simp [h])]
  · obtain ⟨c, cs, hcons⟩ := List.exists_cons_of_ne_nil (Nat.toDigits_ne_nil (b := 10) (n := n))
    obtain ⟨htake, hdrop⟩ := span_toDigits n h
    have hdigit : c.isDigit = true :=
      (Numeral.isNatural_toDigits n).isDigit c (hcons ▸ List.mem_cons_self)
    have hzero : c ≠ '0' := fun hc => Numeral.head?_toDigits hn (by rw [hcons, hc]; rfl)
    rw [hcons, List.cons_append] at htake hdrop ⊢
    rw [wholeDigits?, beginsWithDigit, if_pos hdigit, htake, hdrop]
    exact fun tail heq => hzero (List.cons.inj heq).1

theorem unsigned?_toDigits (n : Nat) (h : EndsValue rest) :
    unsigned? (Nat.toDigits 10 n ++ rest) = some (.ofNumeral n, rest) := by
  obtain ⟨hdigit, hfraction, hexponent⟩ := h.number_eq
  have hvalue := Numeral.natOfDigits?_eq_some_iff.mpr (Numeral.isNatural_toDigits n)
  simp only [unsigned?, wholeDigits?_toDigits n hdigit, hfraction, hexponent, hvalue,
    Option.bind_eq_bind, Option.bind_some, if_pos]
  rfl

/-- A number is read as it is written, and is a number for a setting unless it is negative. -/
theorem number?_toString (n : Int) (h : EndsValue rest) :
    number? ((toString n).toList ++ rest) = some ((Json.num n).setting, rest) := by
  cases n with
  | ofNat n =>
    have hne : ∀ tail, Nat.toDigits 10 n ++ rest ≠ '-' :: tail := by
      intro tail heq
      obtain ⟨c, cs, hcons⟩ := List.exists_cons_of_ne_nil (Nat.toDigits_ne_nil (b := 10) (n := n))
      have hdigit := (Numeral.isNatural_toDigits n).isDigit c (hcons ▸ List.mem_cons_self)
      rw [hcons] at heq
      obtain rfl := (List.cons.inj heq).1
      cases hdigit
    rw [Int.ofNat_eq_natCast, Numeral.toList_toString_natCast, number?, unsigned?_toDigits n h]
    · rfl
    · exact hne
  | negSucc n =>
    rw [Int.negSucc_eq, ← Int.natCast_succ, Numeral.toList_toString_neg (Nat.succ_ne_zero n),
      List.cons_append, number?, unsigned?_toDigits _ h]
    rfl

/-! ## Values -/

/-- A character with which a value can begin, as a document is written. -/
def BeginsValue (c : Char) : Prop :=
  c.isDigit = true ∨ c = '-' ∨ c = '"' ∨ c = '[' ∨ c = '\x7b' ∨ c = 'n' ∨ c = 't' ∨ c = 'f'

theorem exists_toString_eq (n : Int) :
    ∃ c cs, (toString n).toList = c :: cs ∧ (c.isDigit = true ∨ c = '-') := by
  obtain ⟨m, rfl | rfl⟩ := n.eq_nat_or_neg
  · obtain ⟨c, cs, hcons⟩ := List.exists_cons_of_ne_nil (Nat.toDigits_ne_nil (b := 10) (n := m))
    rw [Numeral.toList_toString_natCast]
    exact ⟨c, cs, hcons, .inl ((Numeral.isNatural_toDigits m).isDigit c (hcons ▸ .head _))⟩
  · by_cases hm : m = 0
    · subst hm
      exact ⟨'0', [], rfl, .inl rfl⟩
    · rw [Numeral.toList_toString_neg hm]
      exact ⟨_, _, rfl, .inr rfl⟩

theorem exists_render_eq (j : Json) : ∃ c cs, j.render.toList = c :: cs ∧ BeginsValue c := by
  cases j with
  | null => exact ⟨'n', _, rfl, by simp [BeginsValue]⟩
  | bool b =>
    cases b
    · exact ⟨'f', _, rfl, by simp [BeginsValue]⟩
    · exact ⟨'t', _, rfl, by simp [BeginsValue]⟩
  | num n =>
    obtain ⟨c, cs, hcons, hc⟩ := exists_toString_eq n
    exact ⟨c, cs, hcons, hc.imp_right .inl⟩
  | str text =>
    rw [Json.render, Json.quote, String.toList_ofList]
    exact ⟨'"', _, rfl, by simp [BeginsValue]⟩
  | arr items =>
    rw [Json.render, String.toList_append, String.toList_append]
    exact ⟨'[', _, rfl, by simp [BeginsValue]⟩
  | obj members =>
    rw [Json.render, String.toList_append, String.toList_append]
    exact ⟨'\x7b', _, rfl, by simp [BeginsValue]⟩

theorem BeginsValue.ne (h : BeginsValue c) : c ≠ ' ' ∧ c ≠ '\n' ∧ c ≠ '\t' ∧ c ≠ '\r' ∧
    c ≠ ']' ∧ c ≠ '\x7d' := by
  refine ⟨?_, ?_, ?_, ?_, ?_, ?_⟩
  all_goals
    rintro rfl
    exact absurd h (by simp [BeginsValue])

/-- Nothing is passed over in front of a character that stays when it stands alone. -/
theorem skipBlanks_cons (h : skipBlanks [c] = [c]) : skipBlanks (c :: cs) = c :: cs := by
  rw [skipBlanks, List.dropWhile_cons] at h ⊢
  split at h
  · cases h
  · next hblank => rw [if_neg hblank]

theorem BeginsValue.skipBlanks_eq (h : BeginsValue c) : skipBlanks (c :: cs) = c :: cs := by
  obtain ⟨hspace, hline, htab, hreturn, -, -⟩ := h.ne
  exact skipBlanks_cons (List.dropWhile_cons_of_neg (by simp [hspace, hline, htab, hreturn]))

theorem value?_of_number (h : c.isDigit = true ∨ c = '-') :
    value? (fuel + 1) (c :: cs) = number? (c :: cs) := by
  have hbegins : BeginsValue c := h.imp_right .inl
  rw [value?, hbegins.skipBlanks_eq]
  -- whatever else a value begins with is neither a digit nor a minus sign
  split
  case h_7 => rfl
  all_goals
    next heq =>
    obtain rfl := (List.cons.inj heq).1
    simp at h

theorem exists_itemsText_eq (item : Json) (items : List Json) :
    ∃ c cs, Json.itemsText (item :: items) = c :: cs ∧ BeginsValue c := by
  obtain ⟨c, cs, hcons, hc⟩ := exists_render_eq item
  cases items with
  | nil => exact ⟨c, cs, by rw [Json.itemsText_singleton, hcons], hc⟩
  | cons next items =>
    exact ⟨c, _, by rw [Json.itemsText_cons_cons, hcons, List.cons_append], hc⟩

theorem exists_membersText_eq (member : String × Json) (members : List (String × Json)) :
    ∃ cs, Json.membersText (member :: members) = '"' :: cs := by
  have hquote : ∃ cs, (Json.quote member.1).toList = '"' :: cs :=
    ⟨_, by rw [Json.quote, String.toList_ofList, List.cons_append]⟩
  obtain ⟨cs, hcons⟩ := hquote
  cases members with
  | nil => exact ⟨_, by rw [Json.membersText_singleton, hcons, List.cons_append]⟩
  | cons next members => exact ⟨_, by rw [Json.membersText_cons_cons, hcons, List.cons_append]⟩

/-- The name of a member is read as it is written. -/
theorem memberName?_quote (name : String) (rest : List Char) :
    memberName? ((Json.quote name).toList ++ ':' :: rest) =
      some (name.toList.map Char.toNat, rest) := by
  have hquote : (Json.quote name).toList ++ ':' :: rest =
      '"' :: (name.toList.flatMap Json.escape ++ '"' :: ':' :: rest) := by
    rw [Json.quote, String.toList_ofList, List.cons_append, List.cons_append, List.append_assoc,
      List.singleton_append]
  rw [hquote, memberName?, skipBlanks_cons (c := '"') rfl]
  simp only [codes?_text, Option.bind_eq_bind, Option.bind_some]
  rfl

/-- A document is read as it is written, whatever may stand behind it, with fuel for three times its
characters: a reader calls another one at most twice before it takes a character. -/
def Reads (j : Json) : Prop :=
  ∀ ⦃fuel : Nat⦄ ⦃rest : List Char⦄, EndsValue rest → 3 * j.render.toList.length ≤ fuel + 2 →
    value? fuel (j.render.toList ++ rest) = some (j.setting, rest)

theorem length_render_pos (j : Json) : 0 < j.render.toList.length := by
  obtain ⟨c, cs, hcons, -⟩ := exists_render_eq j
  rw [hcons, List.length_cons]
  exact Nat.succ_pos _

/-- A document has a character, so there is fuel for a first step.  A value that is neither a list
nor a table needs no more. -/
theorem reads_of_succ {j : Json} (h : ∀ (fuel : Nat) (rest : List Char), EndsValue rest →
    value? (fuel + 1) (j.render.toList ++ rest) = some (j.setting, rest)) : Reads j := by
  intro fuel rest hrest hfuel
  have hpos := length_render_pos j
  obtain ⟨fuel, rfl⟩ := Nat.exists_eq_add_one_of_ne_zero (show fuel ≠ 0 by omega)
  exact h fuel rest hrest

/-- Items are read up to the bracket behind them. -/
theorem items?_itemsText {items : List Json} (hitems : ∀ item ∈ items, Reads item)
    (hne : items ≠ []) (hfuel : 3 * (Json.itemsText items).length ≤ fuel + 1) :
    items? fuel (Json.itemsText items ++ ']' :: rest) =
      some (items.map Json.setting, rest) := by
  induction items generalizing fuel with
  | nil => exact absurd rfl hne
  | cons item items ih =>
    obtain ⟨hitem, hitems⟩ := List.forall_mem_cons.mp hitems
    have hpos := length_render_pos item
    cases items with
    | nil =>
      rw [Json.itemsText_singleton] at hfuel ⊢
      obtain ⟨fuel, rfl⟩ := Nat.exists_eq_add_one_of_ne_zero (show fuel ≠ 0 by omega)
      have hread := @hitem fuel (']' :: rest) (.inr (.inl rfl)) (by omega)
      rw [items?, hread]
      rfl
    | cons next items =>
      rw [Json.itemsText_cons_cons, List.length_append, List.length_cons] at hfuel
      obtain ⟨fuel, rfl⟩ := Nat.exists_eq_add_one_of_ne_zero (show fuel ≠ 0 by omega)
      have hread := @hitem fuel (',' :: (Json.itemsText (next :: items) ++ ']' :: rest)) (.inl rfl)
        (by omega)
      have hrest := @ih fuel hitems (List.cons_ne_nil _ _) (by omega)
      rw [Json.itemsText_cons_cons, List.append_assoc, List.cons_append, items?, hread]
      simp only [Option.bind_eq_bind, Option.bind_some, skipBlanks_cons (c := ',') rfl, hrest]
      rfl

/-- Members are read up to the brace behind them, their names by the codes of their characters. -/
theorem members?_membersText {members : List (String × Json)}
    (hmembers : ∀ member ∈ members, Reads member.2) (hne : members ≠ [])
    (hfuel : 3 * (Json.membersText members).length ≤ fuel + 1) :
    members? fuel (Json.membersText members ++ '\x7d' :: rest) =
      some (members.map fun (name, value) => (name.toList.map Char.toNat, value.setting),
        rest) := by
  induction members generalizing fuel with
  | nil => exact absurd rfl hne
  | cons member members ih =>
    obtain ⟨name, value⟩ := member
    have hvalue : Reads value := hmembers _ List.mem_cons_self
    replace hmembers := (List.forall_mem_cons.mp hmembers).2
    cases members with
    | nil =>
      rw [Json.membersText_singleton, List.length_append, List.length_cons] at hfuel
      obtain ⟨fuel, rfl⟩ := Nat.exists_eq_add_one_of_ne_zero (show fuel ≠ 0 by omega)
      have hread := @hvalue fuel ('\x7d' :: rest) (.inr (.inr rfl)) (by omega)
      rw [Json.membersText_singleton, List.append_assoc, List.cons_append, members?,
        memberName?_quote]
      simp only [Option.bind_eq_bind, Option.bind_some, hread]
      rfl
    | cons next members =>
      rw [Json.membersText_cons_cons, List.length_append, List.length_cons, List.length_append,
        List.length_cons] at hfuel
      obtain ⟨fuel, rfl⟩ := Nat.exists_eq_add_one_of_ne_zero (show fuel ≠ 0 by omega)
      have hread := @hvalue fuel (',' :: (Json.membersText (next :: members) ++ '\x7d' :: rest))
        (.inl rfl) (by omega)
      have hrest := @ih fuel hmembers (List.cons_ne_nil _ _) (by omega)
      rw [Json.membersText_cons_cons, List.append_assoc, List.cons_append, List.append_assoc,
        List.cons_append, members?, memberName?_quote]
      simp only [Option.bind_eq_bind, Option.bind_some, hread, skipBlanks_cons (c := ',') rfl,
        hrest]
      rfl

/-- The items of a list are read from behind its bracket on. -/
theorem list?_itemsText {items : List Json} (hitems : ∀ item ∈ items, Reads item)
    (hfuel : 3 * (Json.itemsText items).length ≤ fuel + 1) :
    list? (fuel + 1) (Json.itemsText items ++ ']' :: rest) =
      some (items.map Json.setting, rest) := by
  cases items with
  | nil => rfl
  | cons item items =>
    have hread := @items?_itemsText rest fuel _ hitems (List.cons_ne_nil _ _) hfuel
    obtain ⟨c, cs, hcons, hc⟩ := exists_itemsText_eq item items
    rw [hcons, List.cons_append] at hread ⊢
    rw [list?, hc.skipBlanks_eq]
    split
    · next heq => exact absurd (List.cons.inj heq).1 hc.ne.2.2.2.2.1
    · exact hread

/-- The members of a table are read from behind its brace on. -/
theorem table?_membersText {members : List (String × Json)}
    (hmembers : ∀ member ∈ members, Reads member.2)
    (hfuel : 3 * (Json.membersText members).length ≤ fuel + 1) :
    table? (fuel + 1) (Json.membersText members ++ '\x7d' :: rest) =
      some (members.map fun (name, value) => (name.toList.map Char.toNat, value.setting),
        rest) := by
  cases members with
  | nil => rfl
  | cons member members =>
    have hread := @members?_membersText rest fuel _ hmembers (List.cons_ne_nil _ _) hfuel
    obtain ⟨cs, hcons⟩ := exists_membersText_eq member members
    rw [hcons, List.cons_append] at hread ⊢
    exact hread

theorem reads_num (n : Int) : Reads (.num n) := by
  refine reads_of_succ fun fuel rest hrest => ?_
  obtain ⟨c, cs, hcons, hc⟩ := exists_toString_eq n
  have hread := number?_toString n hrest
  rw [Json.render]
  rw [hcons, List.cons_append] at hread ⊢
  rw [value?_of_number hc, hread]

theorem reads_str (text : String) : Reads (.str text) := by
  refine reads_of_succ fun fuel rest _ => ?_
  rw [Json.render, Json.quote, String.toList_ofList, List.cons_append, List.cons_append,
    List.append_assoc, List.singleton_append, value?, skipBlanks_cons (c := '"') rfl]
  simp only [codes?_text, Option.map_some]
  rfl

theorem reads_arr {items : List Json} (hitems : ∀ item ∈ items, Reads item) :
    Reads (.arr items) := by
  intro fuel rest hrest hfuel
  rw [Json.toList_render_arr, List.length_cons, List.length_append, List.length_singleton] at hfuel
  obtain ⟨fuel, rfl⟩ := Nat.exists_eq_add_of_le' (show 2 ≤ fuel by omega)
  rw [Json.toList_render_arr, List.cons_append, List.append_assoc, List.singleton_append, value?,
    skipBlanks_cons (c := '[') rfl]
  simp only [list?_itemsText hitems (show _ ≤ fuel + 1 by omega), Option.map_some]
  rfl

theorem reads_obj {members : List (String × Json)} (hmembers : ∀ member ∈ members, Reads member.2) :
    Reads (.obj members) := by
  intro fuel rest hrest hfuel
  rw [Json.toList_render_obj, List.length_cons, List.length_append, List.length_singleton] at hfuel
  obtain ⟨fuel, rfl⟩ := Nat.exists_eq_add_of_le' (show 2 ≤ fuel by omega)
  rw [Json.toList_render_obj, List.cons_append, List.append_assoc, List.singleton_append, value?,
    skipBlanks_cons (c := '\x7b') rfl]
  simp only [table?_membersText hmembers (show _ ≤ fuel + 1 by omega), Option.map_some]
  rfl

theorem reads_null : Reads .null := reads_of_succ fun _ _ _ => rfl

theorem reads_bool (b : Bool) : Reads (.bool b) := by
  refine reads_of_succ fun fuel rest _ => ?_
  cases b <;> rfl

/-- **Every document is read as it is written.** -/
theorem reads : ∀ j : Json, Reads j
  | .null => reads_null
  | .bool b => reads_bool b
  | .num n => reads_num n
  | .str text => reads_str text
  | .arr items => reads_arr fun item _ => reads item
  | .obj members => reads_obj fun member hmember => by
    obtain ⟨name, value⟩ := member
    have hlt : sizeOf value < sizeOf members := by
      have hmember := List.sizeOf_lt_of_mem hmember
      rw [Prod.mk.sizeOf_spec] at hmember
      omega
    exact reads value
termination_by j => sizeOf j

/-! ## Documents -/

/-- Names are told by their codes. -/
theorem mapM_ofCodes? (members : List (String × Json)) :
    (members.map fun (name, value) => (name.toList.map Char.toNat, value.setting)).mapM
      (fun (name, value) => (ofCodes? name).map fun name => (String.ofList name, value)) =
        some (members.map fun (name, value) => (name, value.setting)) := by
  induction members with
  | nil => rfl
  | cons member members ih =>
    rw [List.map_cons, List.mapM_cons, ih]
    simp only [ofCodes?_map_toNat, Option.map_some, String.ofList_toList]
    rfl

theorem leading?_of_ne (hlist : c ≠ '[') (htable : c ≠ '\x7b') :
    leading? fuel (c :: cs) = (value? fuel (c :: cs)).map fun (_, rest) => (.single, rest) := by
  rw [leading?.eq_def]
  split
  · next heq => exact absurd (List.cons.inj heq).1 hlist
  · next heq => exact absurd (List.cons.inj heq).1 htable
  · rfl

/-- What stands at the beginning of a text is read as a document. -/
theorem leading?_render (j : Json) (hfuel : 3 * j.render.toList.length ≤ fuel) :
    leading? fuel j.render.toList = some (j.document, []) := by
  have hsingle {c : Char} {cs : List Char} (hcons : j.render.toList = c :: cs) (hlist : c ≠ '[')
      (htable : c ≠ '\x7b') : leading? fuel j.render.toList = some (.single, []) := by
    have hvalue := @reads j fuel [] trivial (by omega)
    rw [List.append_nil] at hvalue
    rw [hcons] at hvalue ⊢
    rw [leading?_of_ne hlist htable, hvalue, Option.map_some]
  cases j with
  | null => exact hsingle rfl (by decide) (by decide)
  | bool b => cases b <;> exact hsingle rfl (by decide) (by decide)
  | num n =>
    obtain ⟨c, cs, hcons, hc⟩ := exists_toString_eq n
    have hne : c ≠ '[' ∧ c ≠ '\x7b' := by
      constructor
      all_goals
        rintro rfl
        simp at hc
    exact hsingle hcons hne.1 hne.2
  | str text =>
    have hcons : (Json.str text).render.toList =
        '"' :: (text.toList.flatMap Json.escape ++ ['"']) := by
      rw [Json.render, Json.quote, String.toList_ofList, List.cons_append]
    exact hsingle hcons (by decide) (by decide)
  | arr items =>
    rw [Json.toList_render_arr, List.length_cons, List.length_append,
      List.length_singleton] at hfuel
    obtain ⟨fuel, rfl⟩ := Nat.exists_eq_add_of_le' (show 1 ≤ fuel by omega)
    have hread := @list?_itemsText [] fuel items (fun item _ => reads item) (by omega)
    rw [Json.toList_render_arr, leading?, hread]
    rfl
  | obj members =>
    rw [Json.toList_render_obj, List.length_cons, List.length_append,
      List.length_singleton] at hfuel
    obtain ⟨fuel, rfl⟩ := Nat.exists_eq_add_of_le' (show 1 ≤ fuel by omega)
    have hread := @table?_membersText [] fuel members (fun member _ => reads member.2) (by omega)
    rw [Json.toList_render_obj, leading?]
    simp only [hread, Option.bind_eq_bind, Option.bind_some, mapM_ofCodes?]
    rfl

/-- **A text that was written for a document holds it.** -/
theorem document?_render (j : Json) : document? j.render = some j.document := by
  obtain ⟨c, cs, hcons, hc⟩ := exists_render_eq j
  have hskip : skipBlanks j.render.toList = j.render.toList := by rw [hcons, hc.skipBlanks_eq]
  simp only [document?, hskip, leading?_render j (Nat.le_add_right _ 3), Option.bind_eq_bind,
    Option.bind_some]
  rfl

end JsonText
end CryptoUsage
