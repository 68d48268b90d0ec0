import CryptoUsage.Config.File
import CryptoUsage.Proofs.Config.JsonReading
import CryptoUsage.Proofs.Config.YamlReading

/-!
# Loading limits

Which limits does a configuration file set?  Those that its members name, each of them at most once
and to a value of its kind; all others are the defaults, and whatever else the file says is passed
over (`ScanConfig.IsSetBy`).

## What is here

* `Settings.foldlM_set?_eq_some_iff`: members are taken one after the other, but what they make of a
  setting depends on the values for that setting alone (`Settings.Takes`).  One member is a step of
  that (`Settings.set?_eq_some_iff`), and the rest is induction on the members.
* `ScanConfig.ofMembers?_eq_some_iff`: a table gives limits exactly if it sets them.  It refuses a
  setting that is made twice or to a value of another kind, because nothing is set by that.  So the
  order of the members does not matter (`ScanConfig.ofMembers?_perm`).
* `ScanConfig.ofJson?_render`, `ScanConfig.ofJson?_render_list` and `ScanConfig.ofYaml?_lines`: the
  same for the texts that were written for a table, for a list and for lines.  What these texts hold
  is known from `JsonText.document?_render` and `Yaml.document?_lines`.
* `ScanConfig.ofFile_toJson` and `ScanConfig.ofFile_lines`: limits of at most 64 bits that are saved
  in either format are the limits that are loaded again.

The last two look at the extension in lower case, as the loader does, so `scan.JSON` will do as
well as `scan.json`.
-/

set_option autoImplicit false

namespace CryptoUsage

/-! ## Settings -/

/-- The values that members give to a name, in order. -/
def valuesOf (members : List (String × SettingValue)) (name : String) : List SettingValue :=
  (members.filter fun member => member.1 == name).map Prod.snd

theorem valuesOf_cons (member : String × SettingValue) (members : List (String × SettingValue))
    (name : String) :
    valuesOf (member :: members) name =
      if member.1 = name then member.2 :: valuesOf members name else valuesOf members name := by
  rw [valuesOf, List.filter_cons]
  by_cases hname : member.1 = name
  · rw [if_pos (beq_iff_eq.mpr hname), if_pos hname]
    rfl
  · rw [if_neg (by rw [beq_iff_eq]; exact hname), if_neg hname]
    rfl

namespace Settings

variable {α : Type} {read : SettingValue → Option α} {before after : Option α}
  {settings next : Settings} {name : String} {value : SettingValue}

/-- A setting after values are given to it: what it was, or the only value if it was not made. -/
def Takes (read : SettingValue → Option α) (before : Option α) (values : List SettingValue)
    (after : Option α) : Prop :=
  (values = [] ∧ after = before) ∨
    before = none ∧ ∃ value a, values = [value] ∧ read value = some a ∧ after = some a

theorem takes_cons {values : List SettingValue} :
    Takes read before (value :: values) after ↔
      ∃ made, once before (read value) = some made ∧ Takes read made values after := by
  constructor
  · rintro (⟨hnil, -⟩ | ⟨rfl, v, a, hvalues, hread, rfl⟩)
    · cases hnil
    · obtain ⟨rfl, rfl⟩ := List.cons.inj hvalues
      exact ⟨some a, by rw [once, hread, Option.map_some], .inl ⟨rfl, rfl⟩⟩
  · rintro ⟨made, hmade, htakes⟩
    cases before with
    | some b => cases hmade
    | none =>
      obtain ⟨a, hread, rfl⟩ := Option.map_eq_some_iff.mp hmade
      rcases htakes with ⟨rfl, rfl⟩ | ⟨hnone, -⟩
      · exact .inr ⟨rfl, value, a, rfl, hread, rfl⟩
      · cases hnone

/-- A member gives its value to the setting that it names, and to no other. -/
theorem takes_valuesOf_cons {member : String × SettingValue}
    {members : List (String × SettingValue)} :
    Takes read before (valuesOf (member :: members) name) after ↔ ∃ made,
      (if member.1 = name then once before (read member.2) = some made else made = before) ∧
        Takes read made (valuesOf members name) after := by
  rw [valuesOf_cons]
  split
  · exact takes_cons
  · exact ⟨fun h => ⟨before, rfl, h⟩, fun ⟨made, hmade, h⟩ => hmade ▸ h⟩

theorem set?_eq_some_iff {member : String × SettingValue} : settings.set? member = some next ↔
    (if member.1 = "max_resolution_depth" then
        once settings.maxResolutionDepth member.2.natural? = some next.maxResolutionDepth
      else next.maxResolutionDepth = settings.maxResolutionDepth) ∧
    (if member.1 = "max_hook_chain" then
        once settings.maxHookChain member.2.natural? = some next.maxHookChain
      else next.maxHookChain = settings.maxHookChain) ∧
    (if member.1 = "max_store_depth" then
        once settings.maxStoreDepth member.2.natural? = some next.maxStoreDepth
      else next.maxStoreDepth = settings.maxStoreDepth) ∧
    (if member.1 = "match_subtypes" then
        once settings.matchSubtypes member.2.truth? = some next.matchSubtypes
      else next.matchSubtypes = settings.matchSubtypes) := by
  obtain ⟨name, value⟩ := member
  obtain ⟨depth, chain, store, subtypes⟩ := settings
  obtain ⟨depth', chain', store', subtypes'⟩ := next
  rw [set?.eq_def]
  dsimp only
  split
  case h_5 hdepth hchain hstore hsubtypes =>
    rw [if_neg hdepth, if_neg hchain, if_neg hstore, if_neg hsubtypes]
    simp [eq_comm]
  all_goals
    simp [Option.map_eq_some_iff]
    grind

/-- **What members make of settings** is what they make of each setting by itself. -/
theorem foldlM_set?_eq_some_iff {members : List (String × SettingValue)} {final : Settings} :
    members.foldlM set? settings = some final ↔
      Takes SettingValue.natural? settings.maxResolutionDepth
        (valuesOf members "max_resolution_depth") final.maxResolutionDepth ∧
      Takes SettingValue.natural? settings.maxHookChain
        (valuesOf members "max_hook_chain") final.maxHookChain ∧
      Takes SettingValue.natural? settings.maxStoreDepth
        (valuesOf members "max_store_depth") final.maxStoreDepth ∧
      Takes SettingValue.truth? settings.matchSubtypes
        (valuesOf members "match_subtypes") final.matchSubtypes := by
  induction members generalizing settings with
  | nil =>
    obtain ⟨depth, chain, store, subtypes⟩ := settings
    obtain ⟨depth', chain', store', subtypes'⟩ := final
    simp [Takes, valuesOf, eq_comm]
  | cons member members ih =>
    simp only [List.foldlM_cons, Option.bind_eq_bind, Option.bind_eq_some_iff, set?_eq_some_iff, ih,
      takes_valuesOf_cons]
    constructor
    · rintro ⟨next, ⟨hdepth, hchain, hstore, hsubtypes⟩, hdepth', hchain', hstore', hsubtypes'⟩
      exact ⟨⟨_, hdepth, hdepth'⟩, ⟨_, hchain, hchain'⟩, ⟨_, hstore, hstore'⟩,
        ⟨_, hsubtypes, hsubtypes'⟩⟩
    · rintro ⟨⟨depth, hdepth, hdepth'⟩, ⟨chain, hchain, hchain'⟩, ⟨store, hstore, hstore'⟩,
        ⟨subtypes, hsubtypes, hsubtypes'⟩⟩
      exact ⟨⟨depth, chain, store, subtypes⟩, ⟨hdepth, hchain, hstore, hsubtypes⟩, hdepth', hchain',
        hstore', hsubtypes'⟩

end Settings

namespace ScanConfig

variable {config : ScanConfig} {members : List (String × SettingValue)}

/-- A limit that values are given to: the default if there are none, and otherwise the only one. -/
def Is {α : Type} (read : SettingValue → Option α) (values : List SettingValue)
    (default limit : α) : Prop :=
  (values = [] ∧ limit = default) ∨ ∃ value, values = [value] ∧ read value = some limit

/-- The limits that members set, each of them at most once and to a value of its kind; the rest are
the defaults.  It does not matter what else there is. -/
structure IsSetBy (config : ScanConfig) (members : List (String × SettingValue)) : Prop where
  maxResolutionDepth : Is SettingValue.natural? (valuesOf members "max_resolution_depth")
    ({} : ScanConfig).maxResolutionDepth config.maxResolutionDepth
  maxHookChain : Is SettingValue.natural? (valuesOf members "max_hook_chain")
    ({} : ScanConfig).maxHookChain config.maxHookChain
  maxStoreDepth : Is SettingValue.natural? (valuesOf members "max_store_depth")
    ({} : ScanConfig).maxStoreDepth config.maxStoreDepth
  matchSubtypes : Is SettingValue.truth? (valuesOf members "match_subtypes")
    ({} : ScanConfig).matchSubtypes config.matchSubtypes

theorem is_iff {α : Type} {read : SettingValue → Option α} {values : List SettingValue}
    {default limit : α} : Is read values default limit ↔
      ∃ made, Settings.Takes read none values made ∧ limit = made.getD default := by
  constructor
  · rintro (⟨hnil, rfl⟩ | ⟨value, hvalues, hread⟩)
    · exact ⟨none, .inl ⟨hnil, rfl⟩, rfl⟩
    · exact ⟨some limit, .inr ⟨rfl, value, limit, hvalues, hread, rfl⟩, rfl⟩
  · rintro ⟨made, ⟨hnil, rfl⟩ | ⟨-, value, a, hvalues, hread, rfl⟩, rfl⟩
    · exact .inl ⟨hnil, rfl⟩
    · exact .inr ⟨value, hvalues, hread⟩

/-- **The limits in a table are those that its members set.** -/
theorem ofMembers?_eq_some_iff : ofMembers? members = some config ↔ config.IsSetBy members := by
  rw [ofMembers?, Option.map_eq_some_iff]
  simp only [Settings.foldlM_set?_eq_some_iff]
  constructor
  · rintro ⟨settings, ⟨hdepth, hchain, hstore, hsubtypes⟩, rfl⟩
    exact ⟨is_iff.mpr ⟨_, hdepth, rfl⟩, is_iff.mpr ⟨_, hchain, rfl⟩, is_iff.mpr ⟨_, hstore, rfl⟩,
      is_iff.mpr ⟨_, hsubtypes, rfl⟩⟩
  · intro h
    obtain ⟨depth, hdepth, hdepth'⟩ := is_iff.mp h.maxResolutionDepth
    obtain ⟨chain, hchain, hchain'⟩ := is_iff.mp h.maxHookChain
    obtain ⟨store, hstore, hstore'⟩ := is_iff.mp h.maxStoreDepth
    obtain ⟨subtypes, hsubtypes, hsubtypes'⟩ := is_iff.mp h.matchSubtypes
    refine ⟨⟨depth, chain, store, subtypes⟩, ⟨hdepth, hchain, hstore, hsubtypes⟩, ?_⟩
    rw [Settings.config, ← hdepth', ← hchain', ← hstore', ← hsubtypes']

/-- The order of the members does not matter. -/
theorem ofMembers?_perm {members' : List (String × SettingValue)} (h : members.Perm members') :
    ofMembers? members = ofMembers? members' := by
  have hvalues (name : String) : (valuesOf members name).Perm (valuesOf members' name) :=
    (h.filter _).map _
  have his {α : Type} {read : SettingValue → Option α} {name : String} {default limit : α} :
      Is read (valuesOf members name) default limit ↔
        Is read (valuesOf members' name) default limit := by
    have hperm := hvalues name
    refine or_congr (and_congr_left' ⟨fun hnil => ?_, fun hnil => ?_⟩)
      (exists_congr fun value => and_congr_left' ⟨fun hone => ?_, fun hone => ?_⟩)
    · rwa [hnil, List.nil_perm] at hperm
    · rwa [hnil, List.perm_nil] at hperm
    · rwa [hone, List.singleton_perm, eq_comm] at hperm
    · rwa [hone, List.perm_singleton] at hperm
  refine Option.ext fun config => ?_
  rw [ofMembers?_eq_some_iff, ofMembers?_eq_some_iff]
  exact ⟨fun hset => ⟨his.mp hset.1, his.mp hset.2, his.mp hset.3, his.mp hset.4⟩,
    fun hset => ⟨his.mpr hset.1, his.mpr hset.2, his.mpr hset.3, his.mpr hset.4⟩⟩

/-! ## Texts -/

/-- **The limits in a JSON text are those that the members of its table set.** -/
theorem ofJson?_render (members : List (String × Json)) :
    ofJson? (Json.obj members).render = some config ↔
      config.IsSetBy (members.map fun (name, value) => (name, value.setting)) := by
  rw [ofJson?, JsonText.document?_render, ← ofMembers?_eq_some_iff]
  rfl

/-- The limits may also be listed by value, in the order of their names. -/
theorem ofJson?_render_list (items : List Json) :
    ofJson? (Json.arr items).render = some config ↔ items.length ≤ settingNames.length ∧
      config.IsSetBy (settingNames.zip (items.map Json.setting)) := by
  have hread : ofJson? (Json.arr items).render = ofItems? (items.map Json.setting) := by
    rw [ofJson?, JsonText.document?_render]
    rfl
  rw [hread, ofItems?, List.length_map, Option.ite_none_left_eq_some, Nat.not_lt,
    ofMembers?_eq_some_iff]

/-- **The limits in a YAML text are those that its lines set.** -/
theorem ofYaml?_lines {lines : List Yaml.Line} (hlines : ∀ line ∈ lines, line.IsPlain) :
    ofYaml? (String.ofList (lines.flatMap Yaml.Line.text)) = some config ↔
      config.IsSetBy (lines.map fun line => (String.ofList line.name,
        Yaml.Scalar.value { style := .plain, text := String.ofList line.value })) := by
  rw [← ofMembers?_eq_some_iff]
  by_cases hne : lines = []
  · subst hne
    exact Iff.rfl
  · rw [ofYaml?, Yaml.document?_lines hlines hne]

/-! ## Files -/

/-- The limits as a table of settings. -/
def settings (config : ScanConfig) : List (String × SettingValue) :=
  [("max_resolution_depth", .natural config.maxResolutionDepth),
    ("max_hook_chain", .natural config.maxHookChain),
    ("max_store_depth", .natural config.maxStoreDepth),
    ("match_subtypes", .truth config.matchSubtypes)]

/-- The limits as a document. -/
def toJson (config : ScanConfig) : Json :=
  .obj [("max_resolution_depth", .num config.maxResolutionDepth),
    ("max_hook_chain", .num config.maxHookChain), ("max_store_depth", .num config.maxStoreDepth),
    ("match_subtypes", .bool config.matchSubtypes)]

/-- The limits, each on a line. -/
def lines (config : ScanConfig) : List Yaml.Line :=
  [⟨"max_resolution_depth".toList, Nat.toDigits 10 config.maxResolutionDepth⟩,
    ⟨"max_hook_chain".toList, Nat.toDigits 10 config.maxHookChain⟩,
    ⟨"max_store_depth".toList, Nat.toDigits 10 config.maxStoreDepth⟩,
    ⟨"match_subtypes".toList, (toString config.matchSubtypes).toList⟩]

/-- The numbers among the limits have at most 64 bits. -/
structure Fits (config : ScanConfig) : Prop where
  maxResolutionDepth : config.maxResolutionDepth < UInt64.size
  maxHookChain : config.maxHookChain < UInt64.size
  maxStoreDepth : config.maxStoreDepth < UInt64.size

theorem isSetBy_settings (config : ScanConfig) : config.IsSetBy config.settings where
  maxResolutionDepth := .inr ⟨.natural config.maxResolutionDepth, by simp [valuesOf, settings], rfl⟩
  maxHookChain := .inr ⟨.natural config.maxHookChain, by simp [valuesOf, settings], rfl⟩
  maxStoreDepth := .inr ⟨.natural config.maxStoreDepth, by simp [valuesOf, settings], rfl⟩
  matchSubtypes := .inr ⟨.truth config.matchSubtypes, by simp [valuesOf, settings], rfl⟩

theorem ofNumeral_eq {n : Nat} (h : n < UInt64.size) : SettingValue.ofNumeral n = .natural n :=
  if_pos h

theorem isPlain_lines (config : ScanConfig) : ∀ line ∈ config.lines, line.IsPlain := by
  have hdigits (n : Nat) : Yaml.IsWord (Nat.toDigits 10 n) :=
    ⟨Nat.toDigits_ne_nil, fun c hc => by
      simp [Yaml.isWordChar, Char.isAlphanum, (Numeral.isNatural_toDigits n).isDigit c hc]⟩
  have htruth (b : Bool) : Yaml.IsWord (toString b).toList := by
    cases b <;> exact ⟨by decide, List.all_eq_true.mp rfl⟩
  have hline (name : String) {value : List Char} (hname : name.toList ≠ [] ∧
      name.toList.all Yaml.isWordChar = true ∧ name.toList.length ≤ 1024)
      (hvalue : Yaml.IsWord value) : (Yaml.Line.mk name.toList value).IsPlain :=
    ⟨⟨hname.1, List.all_eq_true.mp hname.2.1⟩, hname.2.2, hvalue⟩
  simp only [lines, List.forall_mem_cons, List.not_mem_nil, false_implies, implies_true, and_true]
  exact ⟨hline _ (by decide) (hdigits _), hline _ (by decide) (hdigits _),
    hline _ (by decide) (hdigits _), hline _ (by decide) (htruth _)⟩

theorem natural?_toDigits (n : Nat) : Yaml.natural? (Nat.toDigits 10 n) = some n := by
  have hvalue := Numeral.natOfDigits?_eq_some_iff.mpr (Numeral.isNatural_toDigits n)
  obtain ⟨c, cs, hcons⟩ := List.exists_cons_of_ne_nil (Nat.toDigits_ne_nil (b := 10) (n := n))
  have hdigit : c.isDigit = true :=
    (Numeral.isNatural_toDigits n).isDigit c (hcons ▸ List.mem_cons_self)
  by_cases hn : n = 0
  · subst hn
    rfl
  · have hzero : c ≠ '0' := fun hc => Numeral.head?_toDigits hn (by rw [hcons, hc]; rfl)
    have hplus : (c :: cs).head? ≠ some '+' := by
      rintro ⟨⟩
      cases hdigit
    rw [hcons] at hvalue ⊢
    rw [Yaml.natural?, if_neg hplus]
    -- a radix is only marked behind a zero
    split
    case h_5 => exact hvalue
    all_goals
      next heq => exact absurd (List.cons.inj heq).1 hzero

/-- The lines set the limits. -/
theorem value_lines (h : config.Fits) :
    (config.lines.map fun line => (String.ofList line.name,
      Yaml.Scalar.value { style := .plain, text := String.ofList line.value })) =
        config.settings := by
  have hnatural {n : Nat} (hn : n < UInt64.size) : Yaml.Scalar.value
      { style := .plain, text := String.ofList (Nat.toDigits 10 n) } = .natural n := by
    rw [Yaml.Scalar.value, String.toList_ofList, natural?_toDigits]
    exact ofNumeral_eq hn
  have htruth (b : Bool) : Yaml.Scalar.value
      { style := .plain, text := toString b } = .truth b := by
    cases b <;> rfl
  simp only [lines, settings, List.map_cons, List.map_nil, String.ofList_toList,
    hnatural h.maxResolutionDepth, hnatural h.maxHookChain, hnatural h.maxStoreDepth, htruth]

variable {path : String}

/-- **What is saved as JSON is loaded again.** -/
theorem ofFile_toJson (h : config.Fits)
    (hformat : Text.toLowercase ((Text.fileExtension? path).getD "") = "json") :
    ofFile path (some config.toJson.render) = .ok config := by
  have hset : ofJson? config.toJson.render = some config := by
    have hsetting {n : Nat} (hn : n < UInt64.size) : (Json.num n).setting = .natural n :=
      ofNumeral_eq hn
    rw [toJson, ofJson?_render]
    simp only [List.map_cons, List.map_nil, hsetting h.maxResolutionDepth,
      hsetting h.maxHookChain, hsetting h.maxStoreDepth]
    exact isSetBy_settings config
  simp only [ofFile, hformat, hset]
  rfl

/-- **What is saved as YAML is loaded again.** -/
theorem ofFile_lines (h : config.Fits)
    (hformat : Text.toLowercase ((Text.fileExtension? path).getD "") ∈ ["yaml", "yml"]) :
    ofFile path (some (String.ofList (config.lines.flatMap Yaml.Line.text))) = .ok config := by
  have hset : ofYaml? (String.ofList (config.lines.flatMap Yaml.Line.text)) = some config := by
    rw [ofYaml?_lines (isPlain_lines config), value_lines h]
    exact isSetBy_settings config
  rw [List.mem_cons, List.mem_singleton] at hformat
  rcases hformat with hformat | hformat
  all_goals
    simp only [ofFile, hformat, hset]
    rfl

example : ofFile "limits.Yml" (some "match_subtypes: false\nmax_store_depth: 4\n") =
    .ok { maxStoreDepth := 4, matchSubtypes := false } := by decide +kernel

end ScanConfig

end CryptoUsage
