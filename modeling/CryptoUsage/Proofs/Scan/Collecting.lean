import CryptoUsage.Proofs.Isolation.Events
import CryptoUsage.Proofs.Scan.Exactness
import CryptoUsage.Proofs.Scan.Reserving

/-!
# Collecting awaited values

Whoever asks for the values that calls of a method supply is served at every call.  What a call
supplies is added to what was collected, without what is there already (`Collects.serve_asked`);
the observer stays, as hooks on parameters are not for one time; and serving anybody else adds
nothing (`Collects.serve_other`).

If more than one observer asks for the same values, the others find that there is nothing left to
add.  So the values of a call are collected once when it is met (`collects_servedAll`), no matter
how many events there are for it and in which order they are handled.

## How it goes

* Adding values.  Values are filed one by one, each unless it is there.  That is `eraseDups` of
  what was filed, and one more value changes it only if it is new (`Store.at_file_self`).  So a
  list of readings adds what the factory makes of them (`values_storeReadings`).
* Serving.  An observer that asks for the values is served at a call whose argument has a
  constant, so it files and does not wait further out.  All other work keeps to a remit that
  leaves the place out.
* Events.  Handling one adds what the call supplies, or nothing (`Collects.handle`).  For a list
  of events at one site this is an induction in two halves: until the first event of somebody who
  asks, nothing was added, and behind it nothing is left to add (`Collects.handles_asked`).  That
  there is such an event is known from the queue, where everybody is who waits on a hook that
  fires.
-/

set_option autoImplicit false

namespace CryptoUsage

/-! ## Lists without repetitions -/

section

variable {α : Type} [BEq α] [LawfulBEq α]

/-- One more element is kept unless it is there already. -/
theorem eraseDups_concat (l : List α) (a : α) :
    (l ++ [a]).eraseDups = if a ∈ l then l.eraseDups else l.eraseDups ++ [a] := by
  rw [List.eraseDups_append, List.removeAll]
  by_cases hmem : a ∈ l <;> simp [hmem, List.eraseDups_cons]

/-- Elements that are there already are not kept again. -/
theorem eraseDups_append_of_subset {l more : List α} (h : more ⊆ l) :
    (l ++ more).eraseDups = l.eraseDups := by
  have hnone : more.removeAll l = [] := by
    rw [List.removeAll, List.filter_eq_nil_iff]
    intro a ha
    simpa using h ha
  rw [List.eraseDups_append, hnone, List.eraseDups_nil, List.append_nil]

end

/-- Filing values one after the other under an index on which each is kept once. -/
theorem Store.at_file_self {store : Store} {index : Int} {values : List DetectedValue}
    (h : Slots.at store.values index = values.eraseDups) (value : DetectedValue) :
    Slots.at (store.file index value).values index = (values ++ [value]).eraseDups := by
  rw [Store.file, eraseDups_concat, Slots.at_pushNew_self, h]
  simp only [List.contains_iff_mem, List.mem_eraseDups]

namespace Scan

section Calls

variable (scan : Scan)

/-- Whether a site is a call of the method, as far as its matcher can tell. -/
def isCallOf (method : NodeId) (site : Site) : Bool :=
  (scan.unit.methodMatcher? method).any fun matcher =>
    matcher.matches scan.unit site MatchContext.forHook

/-- The value that is made of a reading. -/
def valueOf? (factory : ValueFactory) (reading : Reading) : Option DetectedValue :=
  factory.create? reading.constant (scan.unit.tree.location reading.node)

/-- The values that a call supplies: those of the constants that its argument has. -/
def suppliedAt (awaited : Awaited) (call : Site) : List DetectedValue :=
  match scan.argument? call awaited.place with
  | none => []
  | some argument =>
    (scan.unit.resolveValue scan.config awaited.factory [] argument).filterMap
      (scan.valueOf? awaited.factory)

/-- If a call has the argument, then that has a constant. -/
def Resolves (awaited : Awaited) (call : Site) : Prop :=
  ∀ {argument}, scan.argument? call awaited.place = some argument →
    scan.unit.resolveValue scan.config awaited.factory [] argument ≠ []

/-- What was collected are the awaited values at their place, each of them once, and somebody asks
for more. -/
structure Collects (awaited : Awaited) (id : StoreId) (s : ScanState)
    (collected : List DetectedValue) : Prop where
  reserves : awaited.Reserves id s collected.eraseDups
  isAsked : (scan.unit.methodMatcher? awaited.method).isSome → awaited.IsAsked id s

end Calls

variable {scan : Scan} {awaited : Awaited} {id : StoreId} {s s' : ScanState} {kind : HookKind}
  {observer : Observer} {event : HookEvent} {site : Site}
  {collected more : List DetectedValue}

theorem Collects.congr (h : scan.Collects awaited id s collected) (hstores : s'.stores = s.stores)
    (hhooks : s'.hooks = s.hooks) : scan.Collects awaited id s' collected where
  reserves := h.reserves.congr hstores hhooks
  isAsked hsome := by
    obtain ⟨kind, number, observer, hwaits, hasks⟩ := h.isAsked hsome
    exact ⟨kind, number, observer, hhooks ▸ hwaits, hasks⟩

theorem Collects.confines (h : scan.Collects awaited id s collected)
    (hconfines : (Remit.sparing s.stores.size id awaited.index).Confines s s') :
    scan.Collects awaited id s' collected where
  reserves := h.reserves.confines hconfines (Remit.not_mayFile_sparing h.reserves.lt_size)
  isAsked hsome := (h.isAsked hsome).confines hconfines

/-- What was collected before is not collected again. -/
theorem Collects.absorb (h : scan.Collects awaited id s (collected ++ more))
    (hsub : more ⊆ collected) : scan.Collects awaited id s collected :=
  ⟨eraseDups_append_of_subset hsub ▸ h.reserves, h.isAsked⟩

/-! ## Values -/

/-- Filing the value of a reading at a place that keeps every value once. -/
theorem values_storeReading {store : Store} {index : Int} (factory : ValueFactory)
    (hid : s.stores.store? id = some store)
    (hvalues : Slots.at store.values index = collected.eraseDups) (reading : Reading) :
    let s' := scan.storeReading id index none factory s reading
    s'.hooks = s.hooks ∧ ∃ store', s'.stores.store? id = some store' ∧
      Slots.at store'.values index =
        (collected ++ (scan.valueOf? factory reading).toList).eraseDups := by
  rw [Scan.storeReading, valueOf?]
  cases factory.create? reading.constant (scan.unit.tree.location reading.node) with
  | none => exact ⟨rfl, store, hid, by simpa using hvalues⟩
  | some value =>
    simp only [Arena.receiveValue, if_true, Option.toList_some]
    refine ⟨rfl, store.file index value, ?_, Store.at_file_self hvalues value⟩
    rw [ScanState.withStores_stores, Arena.pushValue_eq]
    exact Arena.store?_modify_self hid _

/-- Filing the values of readings at a place that keeps every value once. -/
theorem values_storeReadings {store : Store} {index : Int} (factory : ValueFactory)
    (hid : s.stores.store? id = some store)
    (hvalues : Slots.at store.values index = collected.eraseDups) (readings : List Reading) :
    let s' := scan.storeReadings id index none factory s readings
    s'.hooks = s.hooks ∧ ∃ store', s'.stores.store? id = some store' ∧
      Slots.at store'.values index =
        (collected ++ readings.filterMap (scan.valueOf? factory)).eraseDups := by
  induction readings generalizing s collected store with
  | nil => exact ⟨rfl, store, hid, by simpa using hvalues⟩
  | cons reading readings ih =>
    have hvalue : (reading :: readings).filterMap (scan.valueOf? factory) =
        (scan.valueOf? factory reading).toList ++ readings.filterMap (scan.valueOf? factory) := by
      cases hvalue : scan.valueOf? factory reading <;> simp [hvalue]
    obtain ⟨hhooks, store', hid', hvalues'⟩ := values_storeReading factory hid hvalues reading
    obtain ⟨hhooks', hrest⟩ := ih hid' hvalues'
    rw [hvalue, ← List.append_assoc]
    exact ⟨hhooks'.trans hhooks, hrest⟩

theorem Collects.storeReadings (h : scan.Collects awaited id s collected)
    (readings : List Reading) :
    scan.Collects awaited id
      (scan.storeReadings id awaited.index none awaited.factory s readings)
      (collected ++ readings.filterMap (scan.valueOf? awaited.factory)) := by
  obtain ⟨store, hid, hvalues⟩ := h.reserves.values_eq
  obtain ⟨hhooks, hfiled⟩ := values_storeReadings awaited.factory hid hvalues readings
  refine ⟨⟨hfiled, fun hwaits => h.reserves.only (hhooks ▸ hwaits)⟩, fun hsome => ?_⟩
  obtain ⟨kind, number, observer, hwaits, hasks⟩ := h.isAsked hsome
  exact ⟨kind, number, observer, hhooks ▸ hwaits, hasks⟩

/-! ## Serving one observer -/

/-- Whoever asks for the awaited values gets those that the call supplies, and stays. -/
theorem Collects.serve_asked (h : scan.Collects awaited id s collected)
    (hasks : awaited.Asks id kind observer) (hresolves : scan.Resolves awaited event.trigger) :
    scan.Collects awaited id (scan.serve s event kind observer)
      (collected ++ scan.suppliedAt awaited event.trigger) := by
  obtain ⟨⟨matcher, rfl⟩, rfl, hpayload, hselections⟩ := hasks
  have hdelivered : scan.Collects awaited observer.requester
      (scan.deliver (.parameter awaited.method matcher awaited.place) observer event.trigger s).1
      (collected ++ scan.suppliedAt awaited event.trigger) := by
    simp only [deliver, hpayload, deliverValue, readingsFor?, hselections, suppliedAt]
    cases hargument : scan.argument? event.trigger awaited.place with
    | none => simpa using h
    | some argument =>
      have hsome := hresolves hargument
      simp only [Option.map_some]
      cases hreadings : scan.unit.resolveValue scan.config awaited.factory [] argument with
      | nil => exact absurd hreadings hsome
      | cons reading readings => exact h.storeReadings (reading :: readings)
  refine hdelivered.congr rfl ?_
  simp only [serve, HookKind.isOneShot, Bool.and_false, Bool.false_eq_true, if_false]

theorem Collects.removeObserver (h : scan.Collects awaited id s collected) {place : Nat}
    {number : ObserverId} (hwaits : s.hooks.WaitsAt place kind number observer)
    (honce : kind.isOneShot = true) :
    scan.Collects awaited id { s with hooks := s.hooks.removeObserver place number } collected where
  reserves := ⟨h.reserves.values_eq, fun hstill => h.reserves.only hstill.of_removeObserver⟩
  isAsked hsome := by
    obtain ⟨kind', number', observer', hwaits', hasks⟩ := h.isAsked hsome
    obtain ⟨place', hat⟩ := HookRepository.waits_iff_exists_waitsAt.mp hwaits'
    refine ⟨kind', number', observer', HookRepository.waits_iff_exists_waitsAt.mpr ⟨place',
      HookRepository.waitsAt_removeObserver.mpr ⟨hat, fun heq => ?_⟩⟩, hasks⟩
    -- hooks on parameters are not for one time
    obtain ⟨rfl, rfl⟩ := Prod.mk.inj heq
    have hkind := Option.some.inj (hat.kinds_getElem?.symm.trans hwaits.kinds_getElem?)
    obtain ⟨matcher, rfl⟩ := hasks.kind_eq
    rw [← hkind] at honce
    cases honce

/-- Serving anybody else adds nothing, and makes nobody leave who asks for the values. -/
theorem Collects.serve_other (h : scan.Collects awaited id s collected) (hs : scan.Explained s)
    (hwaits : s.hooks.WaitsAt event.hook kind event.observer observer)
    (hother : ¬ (observer.requester = id ∧ observer.payload.FilesUnder awaited.index)) :
    scan.Collects awaited id (scan.serve s event kind observer) collected := by
  obtain ⟨-, -, -, _, _, _, _, _, ⟨-, store, hlive, -⟩, -⟩ :=
    hs.requests (HookRepository.waits_iff_exists_waitsAt.mpr ⟨_, hwaits⟩)
  have hconfines : (Remit.sparing s.stores.size id awaited.index).Confines s
      (scan.deliver kind observer event.trigger s).1 :=
    deliver_confines ⟨hs.linked, Nat.le_refl _⟩ ⟨store, hlive⟩ (Remit.mayServe_sparing hother) ..
  have hdelivered := h.confines hconfines
  simp only [serve]
  split
  · next hleaves =>
    exact hdelivered.removeObserver (hconfines.keeps hwaits) (Bool.and_eq_true_iff.mp hleaves).2
  · exact hdelivered

/-! ## Handling events -/

/-- Everything that handling an event can do: nothing, or serve the observer that it names. -/
theorem handle_eq_serve (scan : Scan) (s : ScanState) (event : HookEvent) :
    scan.handle s event = s ∨ ∃ kind observer,
      s.hooks.WaitsAt event.hook kind event.observer observer ∧ scan.handle s event =
        scan.emitIfDetected (scan.serve s event kind observer) observer.root := by
  rw [handle]
  cases hhook : s.hooks.hook? event.hook with
  | none => exact .inl rfl
  | some hook =>
    cases hobserver : s.hooks.observer? event.hook event.observer with
    | none => exact .inl rfl
    | some observer =>
      have hmem := hobserver
      rw [HookRepository.observer?, hhook, Option.bind_some] at hmem
      refine .inr ⟨hook.kind, observer, ⟨hook, hhook, rfl, HookRepository.mem_of_lookup hmem⟩, ?_⟩
      simp only [serve]
      split <;> rfl

theorem handle_of_waitsAt (hn : s.hooks.Numbered)
    (hwaits : s.hooks.WaitsAt event.hook kind event.observer observer) :
    scan.handle s event = scan.emitIfDetected (scan.serve s event kind observer) observer.root := by
  have hobserver := hn.observer?_eq hwaits
  obtain ⟨hook, hhook, rfl, -⟩ := hwaits
  simp only [handle, hhook, hobserver, serve]
  split <;> rfl

theorem Collects.emitIfDetected (h : scan.Collects awaited id s collected) (root : StoreId) :
    scan.Collects awaited id (scan.emitIfDetected s root) collected :=
  h.congr (stores_emitIfDetected ..) (hooks_emitIfDetected ..)

/-- A hook of the unit on the parameter fires at calls of the method only. -/
theorem isCallOf_of_asks (hs : scan.Explained s) {number : ObserverId}
    (hwaits : s.hooks.Waits kind number observer) (hasks : awaited.Asks id kind observer)
    {site : Site} : kind.fires scan.unit site = scan.isCallOf awaited.method site := by
  have hoffers := hs.offers kind hwaits.kind_mem
  obtain ⟨matcher, rfl⟩ := hasks.kind_eq
  rw [isCallOf, hoffers, Option.any_some]
  rfl

/-- **Handling an event adds what the call supplies, or nothing.** -/
theorem Collects.handle (h : scan.Collects awaited id s collected) (hs : scan.Explained s)
    (hdue : scan.Due s event)
    (hresolves : scan.isCallOf awaited.method event.trigger = true →
      scan.Resolves awaited event.trigger) :
    scan.Collects awaited id (scan.handle s event) collected ∨
      scan.isCallOf awaited.method event.trigger = true ∧
        scan.Collects awaited id (scan.handle s event)
          (collected ++ scan.suppliedAt awaited event.trigger) := by
  rcases handle_eq_serve scan s event with heq | ⟨kind, observer, hwaits, heq⟩ <;> rw [heq]
  · exact .inl h
  · by_cases hasked : observer.requester = id ∧ observer.payload.FilesUnder awaited.index
    · have hwaits' := HookRepository.waits_iff_exists_waitsAt.mpr ⟨_, hwaits⟩
      have hasks := h.reserves.only hwaits' hasked.1 hasked.2
      obtain ⟨kind', hkind', hfires⟩ := hdue.fires
      obtain rfl : kind' = kind := Option.some.inj (hkind'.symm.trans hwaits.kinds_getElem?)
      have hcall : scan.isCallOf awaited.method event.trigger = true :=
        isCallOf_of_asks hs hwaits' hasks ▸ hfires
      exact .inr ⟨hcall, (h.serve_asked hasks (hresolves hcall)).emitIfDetected _⟩
    · exact .inl ((h.serve_other hs hwaits hasked).emitIfDetected _)

/-- Handling events at one site adds what the call supplies, once, or nothing. -/
theorem Collects.handles {events : List HookEvent} (h : scan.Collects awaited id s collected)
    (hs : scan.Sound s) (hdue : ∀ event ∈ events, scan.Due s event)
    (htrigger : ∀ event ∈ events, event.trigger = site)
    (hresolves : scan.isCallOf awaited.method site = true → scan.Resolves awaited site) :
    scan.Collects awaited id (events.foldl scan.handle s) collected ∨
      scan.isCallOf awaited.method site = true ∧
        scan.Collects awaited id (events.foldl scan.handle s)
          (collected ++ scan.suppliedAt awaited site) := by
  induction events generalizing s collected with
  | nil => exact .inl h
  | cons event events ih =>
    obtain rfl := htrigger event List.mem_cons_self
    have hfirst := hdue event List.mem_cons_self
    obtain ⟨hs', hkinds⟩ := hs.handle hfirst
    have hrest {collected : List DetectedValue}
        (h' : scan.Collects awaited id (scan.handle s event) collected) :=
      ih h' hs' (fun later hlater => (hdue later (List.mem_cons_of_mem _ hlater)).mono hkinds)
        fun later hlater => htrigger later (List.mem_cons_of_mem _ hlater)
    rcases h.handle hs.explained hfirst hresolves with hkept | ⟨hcall, hadded⟩
    · exact hrest hkept
    · rcases hrest hadded with hkept | ⟨-, hagain⟩
      · exact .inr ⟨hcall, hkept⟩
      · exact .inr ⟨hcall, hagain.absorb (List.subset_append_right _ _)⟩

/-- The same, if what the call supplies is there already. -/
theorem Collects.handles_of_subset {events : List HookEvent}
    (h : scan.Collects awaited id s collected) (hs : scan.Sound s)
    (hdue : ∀ event ∈ events, scan.Due s event)
    (htrigger : ∀ event ∈ events, event.trigger = site)
    (hresolves : scan.isCallOf awaited.method site = true → scan.Resolves awaited site)
    (hsub : scan.suppliedAt awaited site ⊆ collected) :
    scan.Collects awaited id (events.foldl scan.handle s) collected := by
  rcases h.handles hs hdue htrigger hresolves with hkept | ⟨-, hadded⟩
  · exact hkept
  · exact hadded.absorb hsub

/-- Numbers stay in order when an event is handled, and whoever waits on a hook that is not for one
time goes on waiting. -/
theorem numbered_handle (hs : scan.Sound s) (hn : s.hooks.Numbered) (hdue : scan.Due s event) :
    (scan.handle s event).hooks.Numbered ∧ ∀ {place kind number observer},
      s.hooks.WaitsAt place kind number observer → kind.isOneShot = false →
        (scan.handle s event).hooks.WaitsAt place kind number observer := by
  rcases handle_eq_serve scan s event with heq | ⟨kind', observer', hwaits', -⟩
  · rw [heq]
    exact ⟨hn, fun hwaits _ => hwaits⟩
  · obtain ⟨d, -, -, rfl, rfl, -, -, hn', hevolves⟩ := handle_delivers hs hn hdue hwaits'
    refine ⟨hn', fun {place kind number observer} hwaits hstays => ?_⟩
    refine (hevolves.old (hn.number_lt hwaits)).mpr ⟨hwaits, fun hmem => ?_⟩
    obtain ⟨d', hd', hlast, rfl, -⟩ := Delivery.mem_leavers.mp hmem
    obtain rfl := List.mem_singleton.mp hd'
    obtain rfl : kind = d'.kind :=
      Option.some.inj (hwaits.kinds_getElem?.symm.trans hwaits'.kinds_getElem?)
    rw [Delivery.isLast, hstays, Bool.and_false] at hlast
    cases hlast

/-- **If one of the events is for somebody who asks, then what the call supplies is added.**  He
waits until his event comes; the others add nothing else. -/
theorem Collects.handles_asked {events : List HookEvent} (h : scan.Collects awaited id s collected)
    (hs : scan.Sound s) (hn : s.hooks.Numbered) (hdue : ∀ event ∈ events, scan.Due s event)
    (htrigger : ∀ event ∈ events, event.trigger = site) (hresolves : scan.Resolves awaited site)
    (hmem : event ∈ events) (hwaits : s.hooks.WaitsAt event.hook kind event.observer observer)
    (hasks : awaited.Asks id kind observer) :
    scan.Collects awaited id (events.foldl scan.handle s)
      (collected ++ scan.suppliedAt awaited site) := by
  induction events generalizing s with
  | nil => cases hmem
  | cons first events ih =>
    obtain rfl := htrigger first List.mem_cons_self
    have hfirst := hdue first List.mem_cons_self
    obtain ⟨hs', hkinds⟩ := hs.handle hfirst
    obtain ⟨hn', hstay⟩ := numbered_handle hs hn hfirst
    have hdue' : ∀ later ∈ events, scan.Due (scan.handle s first) later := fun later hlater =>
      (hdue later (List.mem_cons_of_mem _ hlater)).mono hkinds
    have htrigger' : ∀ later ∈ events, later.trigger = first.trigger := fun later hlater =>
      htrigger later (List.mem_cons_of_mem _ hlater)
    have hrest (hadded : scan.Collects awaited id (scan.handle s first)
        (collected ++ scan.suppliedAt awaited first.trigger)) :=
      hadded.handles_of_subset hs' hdue' htrigger' (fun _ => hresolves)
        (List.subset_append_right _ _)
    rcases List.mem_cons.mp hmem with rfl | hlater
    · refine hrest ?_
      rw [handle_of_waitsAt hn hwaits]
      exact (h.serve_asked hasks hresolves).emitIfDetected _
    · rcases h.handle hs.explained hfirst fun _ => hresolves with hkept | ⟨-, hadded⟩
      · have hstays : kind.isOneShot = false := by
          obtain ⟨matcher, rfl⟩ := hasks.kind_eq
          rfl
        exact ih hkept hs' hn' hdue' htrigger' hlater (hstay hwaits hstays)
      · exact hrest hadded

/-! ## Meeting a site -/

/-- **What a call supplies is collected when it is met**, and nothing is at any other site. -/
theorem collects_servedAll {node : Nat} (hat : scan.siteAt? node = some site)
    (hresolves : scan.isCallOf awaited.method site = true → scan.Resolves awaited site)
    (h : scan.Collects awaited id (scan.after node) collected) :
    scan.Collects awaited id (scan.servedAll site (meet (scan.after node)))
      (collected ++ if scan.isCallOf awaited.method site then scan.suppliedAt awaited site
        else []) := by
  obtain ⟨n, -, hsite⟩ := Option.bind_eq_some_iff.mp hat
  have hself : scan.unit.site? site.node = some site := by
    rw [CompilationUnit.node_of_site? hsite, hsite]
  have hbefore := sound_after scan node
  have hs : scan.Sound (meet (scan.after node)) := (sound_kept scan).meet (.meets node) hbefore
  have hmet : scan.Collects awaited id (meet (scan.after node)) collected := h.congr rfl rfl
  have hdue : ∀ event ∈ (meet (scan.after node)).hooks.observe scan.unit
      (meet (scan.after node)).position site, scan.Due (meet (scan.after node)) event :=
    fun event hevent => due_of_mem_observe hself hevent
  have htrigger : ∀ event ∈ (meet (scan.after node)).hooks.observe scan.unit
      (meet (scan.after node)).position site, event.trigger = site := fun event hevent =>
    (HookRepository.mem_observe.mp hevent).1
  rw [servedAll, served, List.take_length]
  split
  · next hcall =>
    obtain ⟨matcher, hmatcher, -⟩ := Option.any_eq_true .. |>.mp hcall
    obtain ⟨kind, number, observer, hwaits, hasks⟩ := h.isAsked (Option.isSome_of_mem hmatcher)
    obtain ⟨place, hat⟩ := HookRepository.waits_iff_exists_waitsAt.mp hwaits
    have hregistered := (hbefore.explained.requests hwaits).2.1
    have hevent : { hook := place, observer := number, trigger := site : HookEvent } ∈
        (meet (scan.after node)).hooks.observe scan.unit (meet (scan.after node)).position site :=
      HookRepository.mem_observe.mpr ⟨rfl, kind, observer, hat, Nat.lt_succ_of_le hregistered,
        (isCallOf_of_asks hbefore.explained hwaits hasks).trans hcall⟩
    exact hmet.handles_asked hs (numbered_after scan node) hdue htrigger (hresolves hcall) hevent
      hat hasks
  · next hcall =>
    rw [List.append_nil]
    exact (hmet.handles hs hdue htrigger hresolves).resolve_right fun hadded => hcall hadded.1

end Scan
end CryptoUsage
