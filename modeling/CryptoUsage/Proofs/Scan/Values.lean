import CryptoUsage.Proofs.Scan.Settling

/-!
# Values that are filed in order

Between two events of a scan no store is taking a site, so that all places are settled
(`Settled`).  Serving an observer keeps them settled: it files what was waited for, and nobody
waits for values at a place that was read at once.

So the values of a variable are those of what gives values to it, in order, from the search for
them down to the store in which they are filed (`values_are_those_of_sources`).

## How it goes

* Serving an observer.  A request for values files under the position for which its requester
  asked, and the requester was matched there.  If the argument there had constants, nobody would
  have asked (`Settled.not_readsAtOnce`), so the place is not one that was read at once, and
  filing there touches nothing that is settled.  A request to follow rules makes new stores only.
* Events.  A new root has no site, and evaluating its rule settles every place
  (`evaluate_settles`).  An observer that leaves, and a root that is thrown away, take no values
  with them.  With soundness this is kept by every event (`settled_kept`).
* From the sources to the store.  The first two parts of the theorem are about a search: the
  sources contribute in order, and what each contributes is what it has by itself.  The third
  takes an argument of a matched call, whose place is settled, and reads off what is filed there:
  the values that the factory makes of the constants, in the same order and each of them once.

In the example a variable is assigned to itself.
-/

set_option autoImplicit false

namespace CryptoUsage
namespace Scan

variable {scan : Scan} {s s' : ScanState} {event : HookEvent} {kind : HookKind}
  {observer : Observer} {trigger : Site}

/-! ## Settled states -/

variable (scan) in
/-- All places are settled. -/
abbrev Settled (s : ScanState) : Prop := scan.SettledBut (fun _ _ => False) s

theorem settled_empty : scan.Settled {} := by
  intro id index _ store site rule values hid
  simp [Arena.store?] at hid

/-- Values that somebody waits for are not read at once. -/
theorem Settled.not_readsAtOnce (h : scan.Settled s) {number : ObserverId}
    (hwaits : s.hooks.Waits kind number observer) {index : Int}
    (hfiles : observer.payload.FilesUnder index) {ruleId : RuleId} {rule : Rule} {site : Site}
    (hmatched : scan.Matched s observer.root observer.requester ruleId rule site)
    (values : List DetectedValue) : ¬ scan.ReadsAtOnce rule site index values := by
  intro hreads
  obtain ⟨hrule, store, hid, -, rfl, hsite⟩ := hmatched
  exact (h not_false hid hsite hrule hreads).unasked hwaits rfl hfiles

/-! ## Serving one observer -/

theorem Settled.deliverValue (h : scan.Settled s) (hs : scan.Explained s) {number : ObserverId}
    (hwaits : s.hooks.Waits kind number observer) {index : Int} {id : FactoryId}
    {factory : ValueFactory} {moveUnder : Option Int}
    (hpayload : observer.payload = .value index id factory moveUnder) :
    scan.Settled (scan.deliverValue kind observer index factory moveUnder trigger s).1 := by
  obtain ⟨-, -, -, ruleId, rule, site, position, parameter, hmatched, hparameter, hfits⟩ :=
    hs.requests hwaits
  have hfiles : observer.payload.FilesUnder index := by
    rw [hpayload]
    exact rfl
  rw [Scan.deliverValue]
  split
  · exact h
  · exact h
  · next argument _ =>
    rw [passOn]
    simp only
    split
    · exact h
    · refine h.touches (touches_waitFor_foldl (fun hunder _ => ?_) _)
      exact ⟨kind, number, observer, hwaits, rfl, hunder⟩
  · next readings _ _ _ _ =>
    rw [hpayload] at hfits
    obtain ⟨hindex, -, hrole, hmove⟩ := hfits
    have hmay : scan.MayFile s observer.root observer.requester ruleId index moveUnder :=
      ⟨rule, site, position, parameter, factory, hmatched, hparameter, hrole, hmove, hindex⟩
    have hruns := storeReadings_runs hmay factory readings
    -- what is filed comes to a place at which nothing is read at once
    have hother : scan.SettledBut (fun j i => j = observer.requester ∧ i = index)
        (scan.storeReadings observer.requester index moveUnder factory s readings) :=
      (h.mono False.elim).foldl fun s' hruns' reading _ => by
        have hmay' := hmay.runs hruns'
        obtain ⟨store, hid, -⟩ := hmay'.store_eq
        exact ⟨storeReading_runs hmay' .., fun hsettled =>
          hsettled.touches (touches_storeReading hid ⟨rfl, rfl⟩ ..)⟩
    intro j i _
    by_cases hplace : j = observer.requester ∧ i = index
    · obtain ⟨rfl, rfl⟩ := hplace
      intro store' site' rule' values hid' hsite' hrule' hreads
      have hfinal := hmatched.runs hruns
      obtain rfl : site = site' := Option.some.inj ((hfinal.site_eq hid').symm.trans hsite')
      obtain rfl : rule = rule' := Option.some.inj ((hfinal.rule?_eq hid').symm.trans hrule')
      exact absurd hreads (h.not_readsAtOnce hwaits hfiles hmatched values)
    · exact hother hplace

theorem Settled.deliver (h : scan.Settled s) (hs : scan.Explained s) {number : ObserverId}
    (hwaits : s.hooks.Waits kind number observer)
    (htrigger : scan.unit.site? trigger.node = some trigger)
    (hfires : kind.fires scan.unit trigger = true) :
    scan.Settled (scan.deliver kind observer trigger s).1 := by
  rw [Scan.deliver]
  split
  · next hpayload => exact h.deliverValue hs hwaits hpayload
  · next index rules hpayload =>
    obtain ⟨-, -, -, ruleId, rule, site, position, parameter, hmatched, hparameter, hfits⟩ :=
      hs.requests hwaits
    rw [hpayload] at hfits
    obtain ⟨rfl, hrole, hawaits⟩ := hfits
    cases kind with
    | parameter method matcher place =>
      simp only [deliverRules]
      cases hargument : scan.argument? trigger place with
      | none => exact h
      | some argument =>
        refine h.followDepending (evaluate_runs scan) (evaluate_settles scan) hs hmatched hparameter
          hrole (.hooked hawaits htrigger hfires hargument) fun origin horigin => ?_
        cases horigin
        rfl
    | _ => exact h

theorem Settled.removeObserver (h : scan.Settled s) (place : Nat) (number : ObserverId) :
    scan.Settled { s with hooks := s.hooks.removeObserver place number } :=
  h.touches ⟨.refl s.stores, fun hwaits hfiles _ =>
    ⟨_, _, _, hwaits.of_removeObserver, rfl, hfiles⟩⟩

/-! ## Events -/

theorem Settled.handle (h : scan.Settled s) (hs : scan.Explained s) (hdue : scan.Due s event) :
    scan.Settled (scan.handle s event) := by
  rcases handle_eq_serve scan s event with heq | ⟨kind, observer, hwaits, heq⟩ <;> rw [heq]
  · exact h
  · obtain ⟨kind', hkind', hfires⟩ := hdue.fires
    obtain rfl : kind' = kind := Option.some.inj (hkind'.symm.trans hwaits.kinds_getElem?)
    have hdelivered := h.deliver hs (HookRepository.waits_iff_exists_waitsAt.mpr ⟨_, hwaits⟩)
      hdue.site_eq hfires
    refine SettledBut.congr (s := scan.serve s event kind' observer) ?_ (stores_emitIfDetected ..)
      (hooks_emitIfDetected ..)
    simp only [serve]
    split
    · exact hdelivered.removeObserver ..
    · exact hdelivered

theorem Settled.plant (h : scan.Settled s) (rule : RuleId) : scan.Settled (plant s rule) := by
  refine h.touches (TouchesStores.touches (fun id index new _ hid hsite => ?_) rfl)
  rcases store?_plant_cases hid with ⟨-, rfl⟩ | hold
  · exact absurd rfl hsite
  · exact ⟨new, hold, rfl, rfl, rfl⟩

theorem Settled.tryRoot (h : scan.Settled s) (hs : scan.Explained s) (n : NodeId) (rule : RuleId) :
    scan.Settled (scan.tryRoot n s rule) := by
  have hattempt : scan.Settled (scan.attempt n s rule) :=
    (h.plant rule).evaluateAt (evaluate_settles scan) (hs.plant rule) fun _ =>
      ready_plant scan s rule _
  by_cases hdetected : (scan.attempt n s rule).stores.hasDetections s.stores.size = true
  · rw [tryRoot_of_kept (.inl hdetected)]
    exact hattempt.congr (stores_emitIfDetected ..) (hooks_emitIfDetected ..)
  · by_cases hpending : (scan.attempt n s rule).hooks.hasPendingForRoot s.stores.size = true
    · rw [tryRoot_of_kept (.inr hpending)]
      exact hattempt.congr (stores_emitIfDetected ..) (hooks_emitIfDetected ..)
    · obtain ⟨heq, hhooks⟩ := tryRoot_of_idle hs hdetected hpending
      rw [heq]
      exact h.congr rfl hhooks

theorem settled_kept (scan : Scan) : scan.Kept fun s => scan.Sound s ∧ scan.Settled s where
  empty := ⟨sound_empty, settled_empty⟩
  meet _ := fun ⟨hs, h⟩ => ⟨hs.congr rfl rfl (Nat.le_succ _) rfl, h.congr rfl rfl⟩
  serve _ hdue := fun ⟨hs, h⟩ =>
    ⟨⟨(hs.handle hdue).1, h.handle hs.explained hdue⟩, (hs.handle hdue).2⟩
  attempt _ _ := fun ⟨hs, h⟩ => ⟨hs.tryRoot .., h.tryRoot hs.explained ..⟩

/-- Between two nodes all places are settled. -/
theorem settled_after (scan : Scan) (count : Nat) : scan.Settled (scan.after count) :=
  ((settled_kept scan).after count).2

/-! ## From the sources to the store -/

/-- **The values of a variable come in the order of its sources**, what it is declared with first,
from the search down to the store.

A use of a variable that is no parameter, and not bound by the innermost frame, has what each source
contributes, one after the other.  Every source is looked at with the same selections and frames,
and leaves the marks as they were.  What it contributes is what it has by itself, if nothing comes
too deep and its search does not come back to the use.

In the store that matched a call, the values of an argument that has constants are those that the
factory makes of them, in the same order and each of them once. -/
theorem values_are_those_of_sources (scan : Scan) :
    (∀ {factory : ValueFactory} {n : NodeId} {symbol : Symbol},
      scan.unit.expression n = .variable symbol → symbol.kind ≠ .parameter →
      (∀ (steps : Nat) {path : List NodeId} {frames : List Frame} (selections : List String),
        n ∉ path → (∀ frame ∈ frames.head?, frame.argument? symbol = none) →
        scan.unit.resolveWithin scan.config factory (steps + 1) path frames selections n =
          ((scan.unit.initializer? symbol).toList ++
            (scan.unit.tree.preorder (scan.unit.symbolScope symbol)).filterMap
              (scan.unit.valueAssignedTo? symbol)).flatMap
            (scan.unit.resolveWithin scan.config factory steps (n :: path) frames selections) ∧
        ∀ source, Marked.Yields (insert n path.toFinset)
          (Marked.resolveWithin scan.unit scan.config factory steps frames selections source)
          (scan.unit.resolveWithin scan.config factory steps (n :: path) frames selections source)) ∧
      ∀ selections, scan.unit.ResolvesFully scan.config factory selections n →
        ∀ source ∈ scan.unit.valueSources symbol,
          scan.unit.Avoids scan.config factory selections source n →
          scan.unit.resolveWithin scan.config factory scan.config.maxResolutionDepth [n] []
            selections source = scan.unit.resolveValue scan.config factory selections source) ∧
    ∀ {count : Nat} {id : StoreId} {store : Store} {rule : Rule} {site : Site} {position : Nat}
      {parameter : Parameter} {factory : ValueFactory} {argument : NodeId},
      (scan.after count).stores.store? id = some store → store.site = some site →
      scan.catalog.rule? store.rule = some rule → rule.isMethodOnly = false →
      rule.parameters[position]? = some parameter → parameter.role = .detectable factory →
      parameter.moveUnder = none → scan.argument? site position = some argument →
      scan.unit.resolveValue scan.config factory [] argument ≠ [] →
      Slots.at store.values position =
        ((scan.unit.resolveValue scan.config factory [] argument).filterMap
          (scan.valueOf? factory)).eraseDups := by
  refine ⟨fun {factory n symbol} hvariable hkind => ⟨fun steps path frames selections hpath hfree =>
    ⟨?_, fun source => ?_⟩, fun selections hfull source hsource havoids => ?_⟩, ?_⟩
  · rw [CompilationUnit.resolveWithin_variable hvariable hkind hpath hfree,
      CompilationUnit.valueSources_eq]
  · have hyields := Marked.resolveWithin_yields scan.unit scan.config factory steps (n :: path)
    rw [List.toFinset_cons] at hyields
    exact hyields frames selections source
  · exact CompilationUnit.resolveWithin_source hvariable hkind hfull hsource havoids
  · intro count id store rule site position parameter factory argument hid hsite hrule hkind
      hparameter hrole hmove hargument hsome
    have hreads : scan.ReadsAtOnce rule site position _ :=
      ⟨hkind, position, parameter, factory, argument, rfl, hparameter, hrole, hmove, hargument,
        hsome, rfl⟩
    obtain ⟨store', hid', hvalues⟩ :=
      (settled_after scan count not_false hid hsite hrule hreads).values_eq
    cases hid.symm.trans hid'
    exact hvalues

/-! ### A variable that is assigned to itself

    k = 16
    k = 24
    k = k
    g(k)
-/

namespace Reassigned

/-- The nodes of the program. -/
def nodes : Array SyntaxNode := #[
  ⟨none, "module", true, none, ⟨1, 1, 0, 25⟩, "k = 16\nk = 24\nk = k\ng(k)\n"⟩,
  ⟨some 0, "expression_statement", true, none, ⟨1, 1, 0, 6⟩, "k = 16"⟩,
  ⟨some 1, "assignment", true, none, ⟨1, 1, 0, 6⟩, "k = 16"⟩,
  ⟨some 2, "identifier", true, some "left", ⟨1, 1, 0, 1⟩, "k"⟩,
  ⟨some 2, "=", false, none, ⟨1, 3, 2, 3⟩, "="⟩,
  ⟨some 2, "integer", true, some "right", ⟨1, 5, 4, 6⟩, "16"⟩,
  ⟨some 0, "expression_statement", true, none, ⟨2, 1, 7, 13⟩, "k = 24"⟩,
  ⟨some 6, "assignment", true, none, ⟨2, 1, 7, 13⟩, "k = 24"⟩,
  ⟨some 7, "identifier", true, some "left", ⟨2, 1, 7, 8⟩, "k"⟩,
  ⟨some 7, "=", false, none, ⟨2, 3, 9, 10⟩, "="⟩,
  ⟨some 7, "integer", true, some "right", ⟨2, 5, 11, 13⟩, "24"⟩,
  ⟨some 0, "expression_statement", true, none, ⟨3, 1, 14, 19⟩, "k = k"⟩,
  ⟨some 11, "assignment", true, none, ⟨3, 1, 14, 19⟩, "k = k"⟩,
  ⟨some 12, "identifier", true, some "left", ⟨3, 1, 14, 15⟩, "k"⟩,
  ⟨some 12, "=", false, none, ⟨3, 3, 16, 17⟩, "="⟩,
  ⟨some 12, "identifier", true, some "right", ⟨3, 5, 18, 19⟩, "k"⟩,
  ⟨some 0, "expression_statement", true, none, ⟨4, 1, 20, 24⟩, "g(k)"⟩,
  ⟨some 16, "call", true, none, ⟨4, 1, 20, 24⟩, "g(k)"⟩,
  ⟨some 17, "identifier", true, some "function", ⟨4, 1, 20, 21⟩, "g"⟩,
  ⟨some 17, "argument_list", true, some "arguments", ⟨4, 2, 21, 24⟩, "(k)"⟩,
  ⟨some 19, "(", false, none, ⟨4, 2, 21, 22⟩, "("⟩,
  ⟨some 19, "identifier", true, none, ⟨4, 3, 22, 23⟩, "k"⟩,
  ⟨some 19, ")", false, none, ⟨4, 4, 23, 24⟩, ")"⟩]

/-- The unit with the program. -/
def unit : CompilationUnit where
  language := .python
  filePath := "m.py"
  tree := { nodes, parent_lt := by decide +kernel }

/-- The rule that the argument of a call of `g` is a key of so many bytes. -/
def rule : Rule where
  kind := .full
  matcher := { objectTypes := .any, methodNames := .oneOf ["g"], parameterTypes := .exactly ["*"] }
  parameters := [{ typeName := "*", role := .detectable .keyBytes }]
  next := []
  action := none
  bundle := "Default"
  exactType := false

/-- The scan that meets the call. -/
def once : Scan where
  catalog := { rules := #[rule], earlier := by decide +kernel }
  roots := [0]
  unit := unit

/-- The argument of the call. -/
def argument : NodeId := 21

end Reassigned

set_option maxRecDepth 100000 in
/-- The variable has the two constants, and has them again as it is assigned to itself; the store
holds each of them once. -/
theorem values_of_reassigned_variable :
    let scan := Reassigned.once
    scan.unit.resolveValue scan.config .keyBytes [] Reassigned.argument =
        [5, 10, 15].flatMap (scan.unit.resolveValue scan.config .keyBytes []) ∧
      ∃ store, (scan.after 23).stores.store? 0 = some store ∧
        Slots.at store.values 0 =
          ((scan.unit.resolveValue scan.config .keyBytes [] Reassigned.argument).filterMap
            (scan.valueOf? .keyBytes)).eraseDups ∧
        (Slots.at store.values 0).map (·.value) = ["16", "24"] := by
  obtain ⟨hsources, hfiled⟩ := values_are_those_of_sources Reassigned.once
  constructor
  · have hvariable : Reassigned.once.unit.expression Reassigned.argument =
        .variable ⟨"k", 3, .local⟩ := by decide +kernel
    obtain ⟨hconcat, hown⟩ := @hsources .keyBytes _ _ hvariable (by decide)
    have hfull : Reassigned.once.unit.ResolvesFully Reassigned.once.config .keyBytes []
        Reassigned.argument := by decide +kernel
    have hlist : Reassigned.once.unit.valueSources ⟨"k", 3, .local⟩ = [5, 10, 15] := by
      decide +kernel
    have havoids : ∀ source ∈ [5, 10, 15], Reassigned.once.unit.Avoids Reassigned.once.config
        .keyBytes [] source Reassigned.argument := by decide +kernel
    have hsources' := hown [] hfull
    rw [hlist] at hsources'
    refine (hconcat _ [] List.not_mem_nil (by simp)).1.trans ?_
    rw [← CompilationUnit.valueSources_eq, hlist]
    exact List.flatMap_congr fun source hsource => hsources' source hsource (havoids source hsource)
  · obtain ⟨store, hid, hsite, hrule, hvalues⟩ : ∃ store,
        (Reassigned.once.after 23).stores.store? 0 = some store ∧
          store.site = some (.invocation 17) ∧ store.rule = 0 ∧
          (Slots.at store.values 0).map (·.value) = ["16", "24"] :=
      ⟨((Reassigned.once.after 23).stores.store? 0).get (by decide +kernel),
        by simp, by decide +kernel, by decide +kernel, by decide +kernel⟩
    refine ⟨store, hid, ?_, hvalues⟩
    exact @hfiled 23 0 store Reassigned.rule (.invocation 17) 0 _ .keyBytes _ hid hsite
      (hrule ▸ rfl) (by decide) rfl rfl rfl (by decide +kernel) (by decide +kernel)

end Scan
end CryptoUsage
