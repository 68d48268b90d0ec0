import CryptoUsage.Proofs.Resolution.Wrappers
import CryptoUsage.Proofs.Scan.Confinement

/-!
# A place for values that are awaited

If the argument that a store is to take a value from is a parameter of the method around the site,
then the value is awaited.  The place for it in the store stays empty until a call of the method
comes, as nothing else files values there and nobody else asks for any (`Awaited.Reserves`): all
other work keeps to a remit that leaves the place out.

When the arguments of the site were read, somebody asks for the awaited values, unless no call of
the method can be told (`reserves_readArguments`).  If the same request waits already then nobody
registers, but the values are asked for all the same (`Reserves.register`).

## How it goes

* Leaving one place out.  `Remit.sparing` allows everything but filing under one index of one
  store.  Whoever is registered in work that keeps to it asks for other things, since an observer
  that would file there may not be served.
* Reading the arguments.  They are read in the order of their positions, and one of them is the
  argument in question.  `exists_zipIdx_eq_append` cuts the list there.  The arguments before it
  and behind it have other positions, so that reading them keeps to the remit
  (`readArgument_foldl_confines`).  The argument itself is a variable inside its wrappers, and as
  a parameter it has no constant here and one plan to wait for (`reserves_detectValue`).

`Awaited` bundles what is said of one such place: the method, the parameter and which values are
wanted.
-/

set_option autoImplicit false

namespace CryptoUsage

/-! ## Leaving one place out -/

/-- The values that a payload asks for are filed under the index. -/
def HookPayload.FilesUnder (index : Int) : HookPayload → Prop
  | .value i _ _ _ => i = index
  | .follow .. => False

namespace Remit

variable {mark id other : StoreId} {index i : Int}

/-- Anything may be done, but for filing values under one index of a store before the mark. -/
def sparing (mark id : StoreId) (index : Int) : Remit where
  mark
  adopts _ := True
  files other i := ¬ (other = id ∧ i = index)

theorem not_mayFile_sparing (h : id < mark) : ¬ (sparing mark id index).MayFile id index := by
  rintro (hle | hne)
  · exact absurd h (Nat.not_lt_of_le hle)
  · exact hne ⟨rfl, rfl⟩

theorem mayServe_sparing {observer : Observer}
    (h : ¬ (observer.requester = id ∧ observer.payload.FilesUnder index)) :
    (sparing mark id index).MayServe observer.requester observer.payload := by
  cases hpayload : observer.payload with
  | value i =>
    rw [hpayload] at h
    exact ⟨.inr h, fun _ => .inr trivial⟩
  | follow => exact .inr trivial

end Remit

/-! ## Lists with numbers -/

/-- A list with numbers, around the element that has a number. -/
theorem exists_zipIdx_eq_append {α : Type} {l : List α} {i : Nat} {a : α} (h : l[i]? = some a) :
    ∃ before after, l.zipIdx = before ++ (a, i) :: after ∧ (∀ e ∈ before, e.2 ≠ i) ∧
      ∀ e ∈ after, e.2 ≠ i := by
  have hmem : (a, i) ∈ l.zipIdx := List.mem_zipIdx_iff_getElem?.mpr h
  obtain ⟨before, after, heq⟩ := List.append_of_mem hmem
  have hnodup : (l.zipIdx.map Prod.snd).Nodup := by
    rw [List.zipIdx_map_snd]
    exact List.nodup_range'
  rw [heq, List.map_append, List.map_cons] at hnodup
  obtain ⟨-, hcons, hdisjoint⟩ := List.nodup_append.mp hnodup
  refine ⟨before, after, heq, fun e he => ?_, fun e he hi => ?_⟩
  · exact hdisjoint e.2 (List.mem_map_of_mem he) i List.mem_cons_self
  · have hagain : e.2 ∈ after.map Prod.snd := List.mem_map_of_mem he
    exact (List.nodup_cons.mp hcons).1 (hi ▸ hagain)

/-! ## Awaited values -/

/-- The values that calls of a method supply for a parameter of a rule. -/
structure Awaited where
  /-- The parameter of the rule. -/
  wanted : FactoryId
  factory : ValueFactory
  /-- The method, and the place of the argument in its calls. -/
  method : NodeId
  place : Nat

namespace Awaited

variable (awaited : Awaited)

/-- The index under which the values are filed. -/
def index : Int := (awaited.wanted.parameter : Nat)

/-- An observer asks for the values on behalf of a store, and waits on a hook that can supply
them. -/
structure Asks (id : StoreId) (kind : HookKind) (observer : Observer) : Prop where
  kind_eq : ∃ matcher, kind = .parameter awaited.method matcher awaited.place
  requester_eq : observer.requester = id
  payload_eq : observer.payload = .value awaited.index awaited.wanted awaited.factory none
  selections_eq : observer.selections = []

/-- A store holds the given values under the index, and no others can come there: whoever asks for
values that are filed there asks for the awaited ones. -/
structure Reserves (id : StoreId) (s : ScanState) (values : List DetectedValue) : Prop where
  values_eq : ∃ store, s.stores.store? id = some store ∧
    Slots.at store.values awaited.index = values
  only : ∀ {kind number observer}, s.hooks.Waits kind number observer →
    observer.requester = id → observer.payload.FilesUnder awaited.index →
    awaited.Asks id kind observer

/-- Somebody asks for the values. -/
def IsAsked (id : StoreId) (s : ScanState) : Prop :=
  ∃ kind number observer, s.hooks.Waits kind number observer ∧ awaited.Asks id kind observer

variable {awaited} {id : StoreId} {s s' : ScanState} {values : List DetectedValue} {remit : Remit}

theorem Reserves.congr (h : awaited.Reserves id s values) (hstores : s'.stores = s.stores)
    (hhooks : s'.hooks = s.hooks) : awaited.Reserves id s' values where
  values_eq := hstores ▸ h.values_eq
  only hwaits := h.only (hhooks ▸ hwaits)

theorem Reserves.lt_size (h : awaited.Reserves id s values) : id < s.stores.size := by
  obtain ⟨store, hid, -⟩ := h.values_eq
  exact Arena.lt_size_of_store? hid

/-- Work whose remit leaves the place out brings nothing there, and nobody who would. -/
theorem Reserves.confines (h : awaited.Reserves id s values) (hconfines : remit.Confines s s')
    (hnot : ¬ remit.MayFile id awaited.index) : awaited.Reserves id s' values where
  values_eq := by
    obtain ⟨store, hid, hvalues⟩ := h.values_eq
    obtain ⟨store', hid', hrespects⟩ := hconfines.spares.stores hid
    exact ⟨store', hid', (hrespects.values hnot).trans hvalues⟩
  only {kind number observer} hwaits hrequester hfiles := by
    obtain ⟨hook, hat⟩ := HookRepository.waits_iff_exists_waitsAt.mp hwaits
    rcases hconfines.enlists hat with hold | hmay
    · exact h.only (HookRepository.waits_iff_exists_waitsAt.mpr ⟨hook, hold⟩) hrequester hfiles
    · cases hpayload : observer.payload with
      | value i =>
        rw [hpayload] at hmay hfiles
        obtain rfl : i = awaited.index := hfiles
        exact absurd (hrequester ▸ hmay.1) hnot
      | follow =>
        rw [hpayload] at hfiles
        exact hfiles.elim

theorem IsAsked.confines (h : awaited.IsAsked id s) (hconfines : remit.Confines s s') :
    awaited.IsAsked id s' := by
  obtain ⟨kind, number, observer, hwaits, hasks⟩ := h
  obtain ⟨hook, hat⟩ := HookRepository.waits_iff_exists_waitsAt.mp hwaits
  exact ⟨kind, number, observer,
    HookRepository.waits_iff_exists_waitsAt.mpr ⟨hook, hconfines.keeps hat⟩, hasks⟩

/-- When an observer that asks for the values registers, then somebody asks for them: it, or one
with the same request who was there before. -/
theorem Reserves.register (h : awaited.Reserves id s values) {kind : HookKind}
    {observer : Observer} (hasks : awaited.Asks id kind observer) :
    awaited.Reserves id { s with hooks := (s.hooks.register kind observer).1 } values ∧
      awaited.IsAsked id { s with hooks := (s.hooks.register kind observer).1 } := by
  have hsame : ∀ {other : HookKind}, other.sameTarget kind = true →
      awaited.Asks id other observer := by
    intro other htarget
    obtain ⟨⟨matcher, rfl⟩, hrequester, hpayload, hselections⟩ := hasks
    cases other with
    | parameter method matcher' place =>
      obtain ⟨rfl, rfl⟩ : method = awaited.method ∧ place = awaited.place := by
        simpa [HookKind.sameTarget] using htarget
      exact ⟨⟨matcher', rfl⟩, hrequester, hpayload, hselections⟩
    | result => cases htarget
    | enum => cases htarget
  refine ⟨⟨h.values_eq, fun {other number o} hwaits hrequester hfiles => ?_⟩, ?_⟩
  · rcases hwaits.of_register with hold | ⟨rfl, -, rfl | htarget⟩
    · exact h.only hold hrequester hfiles
    · exact hasks
    · exact hsame htarget
  · rcases HookRepository.register_cases s.hooks kind observer with
      ⟨heq, hook, hhook, htarget, ⟨number, o⟩, hmem, hrequest⟩ | ⟨-, heq⟩ |
      ⟨before, hook, after, -, -, htarget, -, heq⟩ <;> rw [heq]
    · have hwaits : s.hooks.Waits hook.kind number o := ⟨hook, hhook, rfl, hmem⟩
      refine ⟨hook.kind, number, o, hwaits, h.only hwaits ?_ ?_⟩
      · simp only [Observer.sameRequest, Bool.and_eq_true, beq_iff_eq] at hrequest
        exact hrequest.1.1.trans hasks.requester_eq
      · simp only [Observer.sameRequest, Bool.and_eq_true, hasks.payload_eq] at hrequest
        cases hpayload : o.payload with
        | value i =>
          rw [hpayload, HookPayload.sameAs] at hrequest
          exact eq_of_beq (Bool.and_eq_true_iff.mp hrequest.2).1
        | follow =>
          rw [hpayload] at hrequest
          cases hrequest.2
    · refine ⟨kind, s.hooks.nextObserver, observer, ?_, hasks⟩
      exact ⟨⟨kind, [(s.hooks.nextObserver, observer)]⟩, by simp, rfl, by simp⟩
    · refine ⟨hook.kind, s.hooks.nextObserver, observer, ?_, hsame htarget⟩
      exact ⟨hook.join s.hooks.nextObserver observer, by simp, rfl, by simp [Hook.join]⟩

end Awaited

/-! ## Reading the arguments -/

namespace Scan

variable (scan : Scan)

/-- At a site that a rule matches, a parameter of the rule is for the awaited values: what is filed
for it is not moved, and the argument is a parameter of the method inside as many parentheses and
casts as are looked through, and does not range over an enum of the unit. -/
structure TakesParameter (awaited : Awaited) (rule : Rule) (site : Site) : Prop where
  isDetectable : ∃ parameter, rule.parameters[awaited.wanted.parameter]? = some parameter ∧
    parameter.role = .detectable awaited.factory ∧ parameter.moveUnder = none
  isParameter : ∃ argument symbol, scan.argument? site awaited.wanted.parameter = some argument ∧
    scan.unit.expression (scan.unwrap argument) = .variable symbol ∧ symbol.kind = .parameter ∧
    scan.unit.enumTypeOf? symbol = none ∧
    scan.unit.parameterPosition? symbol = some (awaited.method, awaited.place)

variable {scan} {awaited : Awaited} {id : StoreId} {s : ScanState} {values : List DetectedValue}
  {rule : Rule} {site : Site}

/-- Where the argument is looked at, somebody asks for the awaited values. -/
theorem reserves_detectValue (h : awaited.Reserves id s values) {argument : NodeId}
    {symbol : Symbol} (hvariable : scan.unit.expression (scan.unwrap argument) = .variable symbol)
    (hkind : symbol.kind = .parameter) (henum : scan.unit.enumTypeOf? symbol = none)
    (hplace : scan.unit.parameterPosition? symbol = some (awaited.method, awaited.place)) :
    let s' := scan.detectValue id awaited.index none awaited.wanted awaited.factory s argument
    s'.stores = s.stores ∧ awaited.Reserves id s' values ∧
      ((scan.unit.methodMatcher? awaited.method).isSome → awaited.IsAsked id s') := by
  have hnone : scan.unit.resolveValue scan.config awaited.factory [] argument = [] :=
    CompilationUnit.resolveValue_of_parameter hvariable hkind
  have hplan : scan.unit.planHooks scan.config awaited.factory.isSize [] argument =
      [.parameter awaited.method awaited.place []] :=
    CompilationUnit.planHooks_of_parameter hvariable hkind henum hplace _
  let observer : Observer :=
    { requester := id
      root := s.rootOf id
      payload := .value awaited.index awaited.wanted awaited.factory none
      registeredAt := s.position }
  have hdetect : scan.detectValue id awaited.index none awaited.wanted awaited.factory s argument =
      scan.waitFor observer s (.parameter awaited.method awaited.place []) := by
    rw [detectValue, hnone, hplan]
    rfl
  rw [hdetect]
  cases hmatcher : scan.unit.methodMatcher? awaited.method with
  | none =>
    have hidle : scan.waitFor observer s (.parameter awaited.method awaited.place []) = s := by
      rw [waitFor, hookOf?, hmatcher, Option.map_none]
    rw [hidle]
    exact ⟨rfl, h, fun hsome => absurd hsome Bool.false_ne_true⟩
  | some matcher =>
    have hregisters : scan.waitFor observer s (.parameter awaited.method awaited.place []) =
        { s with hooks := (s.hooks.register (.parameter awaited.method matcher awaited.place)
            observer).1 } := by
      rw [waitFor, hookOf?, hmatcher, Option.map_some]
    have hasks : awaited.Asks id (.parameter awaited.method matcher awaited.place) observer :=
      ⟨⟨matcher, rfl⟩, rfl, rfl, rfl⟩
    obtain ⟨hreserves, hasked⟩ := h.register hasks
    rw [hregisters]
    exact ⟨rfl, hreserves, fun _ => hasked⟩

/-- Reading other arguments keeps to a remit that leaves the place out. -/
theorem readArgument_foldl_confines (scan : Scan) {evaluate : Evaluator}
    (he : KeepsRemits evaluate) (hlinked : s.stores.Linked) (hlt : id < s.stores.size)
    (ruleId : RuleId) {position : Nat} {entries : List ((Parameter × NodeId) × Nat)}
    (hne : ∀ entry ∈ entries, entry.2 ≠ position) :
    (Remit.sparing s.stores.size id position).Confines s
      (entries.foldl (scan.readArgument evaluate id ruleId) s) := by
  obtain ⟨store, hid⟩ := Arena.exists_store? hlt
  have hfits : (Remit.sparing s.stores.size id position).Fits s.stores :=
    ⟨hlinked, Nat.le_refl _⟩
  have hopen : (Remit.sparing s.stores.size id position).IsOpen s.stores id :=
    ⟨.inr trivial, store, hid⟩
  refine .foldl fun s' hconfines entry hentry => ?_
  refine readArgument_confines he (hfits.spares hconfines.spares)
    (hopen.spares hconfines.spares) _ (.inr fun hsame => hne entry hentry ?_)
  exact Int.ofNat_inj.mp hsame.2

/-- **When the arguments are read, somebody asks for the awaited values**, and nothing else brings
values to their place. -/
theorem reserves_readArguments {evaluate : Evaluator} (he : KeepsRemits evaluate)
    (htakes : scan.TakesParameter awaited rule site) (hlinked : s.stores.Linked)
    (h : awaited.Reserves id s values) :
    let s' := scan.readArguments evaluate id awaited.wanted.rule rule site s
    awaited.Reserves id s' values ∧
      ((scan.unit.methodMatcher? awaited.method).isSome → awaited.IsAsked id s') := by
  obtain ⟨parameter, hparameter, hrole, hmove⟩ := htakes.isDetectable
  obtain ⟨argument, symbol, hargument, hvariable, hkind, henum, hplace⟩ := htakes.isParameter
  have hat : (rule.parameters.zip (scan.unit.arguments site))[awaited.wanted.parameter]? =
      some (parameter, argument) := List.getElem?_zip_eq_some.mpr ⟨hparameter, hargument⟩
  obtain ⟨before, after, heq, hbefore, hafter⟩ := exists_zipIdx_eq_append hat
  have hread : ∀ s, scan.readArgument evaluate id awaited.wanted.rule s
      ((parameter, argument), awaited.wanted.parameter) =
        scan.detectValue id awaited.index none awaited.wanted awaited.factory s argument := by
    intro s
    simp only [readArgument, hrole, hmove]
    rfl
  simp only [readArguments, heq, List.foldl_append, List.foldl_cons, hread]
  have hfirst := readArgument_foldl_confines scan he hlinked h.lt_size awaited.wanted.rule hbefore
  have hreserves := h.confines hfirst (Remit.not_mayFile_sparing h.lt_size)
  obtain ⟨hstores, hreserves', hasked⟩ :=
    reserves_detectValue hreserves hvariable hkind henum hplace
  have hlast := readArgument_foldl_confines scan he (hstores ▸ hfirst.spares.linked hlinked)
    hreserves'.lt_size awaited.wanted.rule hafter
  exact ⟨hreserves'.confines hlast (Remit.not_mayFile_sparing hreserves'.lt_size),
    fun hsome => (hasked hsome).confines hlast⟩

end Scan
end CryptoUsage
