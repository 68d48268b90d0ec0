import CryptoUsage.Proofs.Hooks.Places
import CryptoUsage.Proofs.Scan.Soundness

/-!
# The queue of events

When a scan meets a site, the events for those who are to be told of it are put in a queue, and
events are taken off its front until none is left; only then are the root rules tried.  `Queued`
is a scan that keeps such a queue from node to node, and with it a record of what was delivered.

`Scan.visit` needs no queue because nothing is added to it while events are handled.  The two are
the same scan (`queuedAfter_eq`), and the record is the concatenation of what is delivered for
each event of each node (`deliveriesFrom`).

## How it goes

* Deliveries.  A delivery says which observer was served at which site, under which number and on
  which hook, and whether it got what it waited for.  `delivery?` reads it off the state in which
  the event is taken off; there is none if the observer has left meanwhile.
* The queue.  `drain` takes events off until none is left, and `drain_eq` is the induction over
  the queue that compares this with a fold.
* What handling does to the hooks.  Work for a root registers observers, all at the position of
  the traversal (`Runs.evolves`).  Handling an event serves the observer that it names, which then
  leaves if the hook is for one time and it got something (`handle_delivers`).  The events of a
  site are for different observers, and an observer leaves with its own event only, so each event
  finds its observer: there is one delivery for each, in order (`serves_deliveriesFrom`).
-/

set_option autoImplicit false

namespace CryptoUsage

/-- An observer that was served at a site. -/
structure Delivery where
  /-- The position of the traversal. -/
  position : Nat
  /-- The place of the hook that fired. -/
  hook : Nat
  kind : HookKind
  /-- The number of the observer. -/
  number : ObserverId
  observer : Observer
  trigger : Site
  /-- Whether the observer got what it waited for. -/
  satisfied : Bool

namespace Delivery

/-- The event that was handled. -/
def event (d : Delivery) : HookEvent where
  hook := d.hook
  observer := d.number
  trigger := d.trigger

/-- Whether the observer left with it. -/
def isLast (d : Delivery) : Bool := d.satisfied && d.kind.isOneShot

/-- The observers that left with what was delivered, by place and number. -/
def leavers (deliveries : List Delivery) : List (Nat × ObserverId) :=
  (deliveries.filter isLast).map fun d => (d.hook, d.number)

theorem mem_leavers {deliveries : List Delivery} {place : Nat} {number : ObserverId} :
    (place, number) ∈ leavers deliveries ↔
      ∃ d ∈ deliveries, d.isLast = true ∧ d.hook = place ∧ d.number = number := by
  simp [leavers, and_assoc]

theorem leavers_cons (d : Delivery) (deliveries : List Delivery) :
    leavers (d :: deliveries) = leavers [d] ++ leavers deliveries := by
  rw [leavers, leavers, leavers, ← List.map_append, ← List.filter_append, List.singleton_append]

end Delivery

namespace Scan

variable (scan : Scan)

/-- What is delivered when an event is handled; nothing if the hook or the observer is gone. -/
def delivery? (s : ScanState) (event : HookEvent) : Option Delivery :=
  match s.hooks.hook? event.hook, s.hooks.observer? event.hook event.observer with
  | some hook, some observer =>
    some
      { position := s.position
        hook := event.hook
        kind := hook.kind
        number := event.observer
        observer
        trigger := event.trigger
        satisfied := (scan.deliver hook.kind observer event.trigger s).2 }
  | _, _ => none

/-- A scan at work: its state, the events that are queued, and what was delivered so far. -/
structure Queued where
  state : ScanState := {}
  queue : List HookEvent := []
  delivered : List Delivery := []

/-- The scan after the first event of the queue is taken off and handled. -/
def pop (q : Queued) : Queued :=
  match q.queue with
  | [] => q
  | event :: queue =>
    { state := scan.handle q.state event
      queue
      delivered := q.delivered ++ (scan.delivery? q.state event).toList }

/-- The scan after events are taken off the queue until none is left. -/
def drain (q : Queued) : Queued := if q.queue.isEmpty then q else drain (scan.pop q)
termination_by q.queue.length
decreasing_by
  cases hqueue : q.queue with
  | nil => simp_all
  | cons event queue => simp [pop, hqueue]

/-- The scan when it is ready to try the root rules at a site: the events for the site were queued,
and then the queue was drained. -/
def ready (site : Site) (q : Queued) : Queued :=
  let s := meet q.state
  scan.drain { q with state := s, queue := q.queue ++ s.hooks.observe scan.unit s.position site }

/-- The scan after a node is met. -/
def visitQueued (q : Queued) (n : NodeId) : Queued :=
  match scan.unit.site? n with
  | none => { q with state := meet q.state }
  | some site =>
    let q := scan.ready site q
    { q with state := scan.roots.foldl (scan.tryRoot n) q.state }

/-- The scan after it has met the first `count` nodes. -/
def queuedAfter (count : Nat) : Queued :=
  ((scan.unit.tree.preorder SyntaxTree.root).take count).foldl scan.visitQueued {}

/-- Everything that is delivered in a scan, in order. -/
def deliveries : List Delivery :=
  (scan.queuedAfter (scan.unit.tree.preorder SyntaxTree.root).length).delivered

/-! ## Without a queue -/

/-- What is delivered when events are handled one after the other. -/
def deliveriesFrom (s : ScanState) : List HookEvent → List Delivery
  | [] => []
  | event :: queue => (scan.delivery? s event).toList ++ deliveriesFrom (scan.handle s event) queue

/-- The site at the node with the given number, if there is one. -/
def siteAt? (node : Nat) : Option Site :=
  (scan.unit.tree.preorder SyntaxTree.root)[node]?.bind scan.unit.site?

/-- What is delivered at the node with the given number. -/
def deliveriesAt (node : Nat) : List Delivery :=
  match scan.siteAt? node with
  | none => []
  | some site =>
    let s := meet (scan.after node)
    scan.deliveriesFrom s (s.hooks.observe scan.unit s.position site)

variable {scan}

/-- Draining handles all events that are queued, and leaves no other. -/
theorem drain_eq (scan : Scan) (s : ScanState) (queue : List HookEvent)
    (delivered : List Delivery) :
    scan.drain { state := s, queue, delivered } =
      { state := queue.foldl scan.handle s
        queue := []
        delivered := delivered ++ scan.deliveriesFrom s queue } := by
  induction queue generalizing s delivered with
  | nil =>
    rw [drain]
    simp [deliveriesFrom]
  | cons event queue ih =>
    rw [drain]
    simp only [List.isEmpty_cons, Bool.false_eq_true, if_false, pop, ih, List.foldl_cons,
      deliveriesFrom, List.append_assoc]

/-- **The queue changes nothing**: between two nodes it is empty, and the states are those of the
scan without it. -/
theorem queuedAfter_eq (scan : Scan) (count : Nat) :
    scan.queuedAfter count =
      { state := scan.after count
        queue := []
        delivered := (List.range count).flatMap scan.deliveriesAt } := by
  induction count with
  | zero => rfl
  | succ count ih =>
    cases hnode : (scan.unit.tree.preorder SyntaxTree.root)[count]? with
    | none =>
      have hlen := List.getElem?_eq_none_iff.mp hnode
      have hsame : scan.queuedAfter (count + 1) = scan.queuedAfter count := by
        rw [queuedAfter, queuedAfter, List.take_of_length_le hlen,
          List.take_of_length_le (Nat.le_succ_of_le hlen)]
      simp [hsame, ih, after_of_length_le hlen, List.range_succ, deliveriesAt, siteAt?, hnode]
    | some n =>
      have hnext : scan.queuedAfter (count + 1) =
          scan.visitQueued (scan.queuedAfter count) n := foldl_take_succ _ _ hnode
      rw [hnext, ih, after_succ hnode, visitQueued, List.range_succ, List.flatMap_append]
      cases hsite : scan.unit.site? n with
      | none =>
        rw [visit_of_no_site hsite]
        simp [deliveriesAt, siteAt?, hnode, hsite]
      | some site =>
        rw [visit_of_site hsite]
        simp only [ready, List.nil_append, drain_eq, tried, servedAll, served, List.take_length,
          List.flatMap_singleton, deliveriesAt, siteAt?, hnode, Option.bind_some, hsite]

theorem deliveries_eq (scan : Scan) :
    scan.deliveries = (List.range (scan.unit.tree.preorder SyntaxTree.root).length).flatMap
      scan.deliveriesAt := by
  rw [deliveries, queuedAfter_eq]

theorem deliveriesAt_of_site {node : Nat} {site : Site} (h : scan.siteAt? node = some site) :
    scan.deliveriesAt node = scan.deliveriesFrom (meet (scan.after node))
      ((scan.after node).hooks.observe scan.unit ((scan.after node).position + 1) site) := by
  rw [deliveriesAt, h]
  rfl

theorem deliveriesAt_of_no_site {node : Nat} (h : scan.siteAt? node = none) :
    scan.deliveriesAt node = [] := by
  rw [deliveriesAt, h]

/-! ## Handling events -/

/-- Work for a root registers observers at the position of the traversal. -/
theorem Step.evolves {s s' : ScanState} {root : StoreId} (h : scan.Step root s s')
    (hn : s.hooks.Numbered) :
    s'.hooks.Numbered ∧ HookRepository.Evolves s.position [] s.hooks s'.hooks := by
  cases h with
  | @wait kind observer requests root_eq now =>
    exact ⟨hn.register kind observer, now ▸ HookRepository.evolves_register hn kind observer⟩
  | _ => exact ⟨hn, .refl _ hn⟩

theorem Runs.evolves {s s' : ScanState} {root : StoreId} (h : scan.Runs root s s')
    (hn : s.hooks.Numbered) :
    s'.hooks.Numbered ∧ HookRepository.Evolves s.position [] s.hooks s'.hooks := by
  induction h with
  | refl => exact ⟨hn, .refl _ hn⟩
  | tail hruns hstep ih =>
    obtain ⟨hn', hevolves⟩ := ih
    obtain ⟨hn'', hevolves'⟩ := hstep.evolves hn'
    rw [Runs.position_eq hruns] at hevolves'
    exact ⟨hn'', hevolves.trans hevolves' (by simp)⟩

/-- **Handling an event serves the observer that it names**, who then leaves if the hook is for one
time and it got what it waited for. -/
theorem handle_delivers {s : ScanState} (hs : scan.Sound s) (hn : s.hooks.Numbered)
    {event : HookEvent} (hdue : scan.Due s event) {kind : HookKind} {observer : Observer}
    (hwaits : s.hooks.WaitsAt event.hook kind event.observer observer) :
    ∃ d, scan.delivery? s event = some d ∧ d.position = s.position ∧ event = d.event ∧
      kind = d.kind ∧ observer = d.observer ∧ (scan.handle s event).position = s.position ∧
      (scan.handle s event).hooks.Numbered ∧
      HookRepository.Evolves s.position (Delivery.leavers [d]) s.hooks
        (scan.handle s event).hooks := by
  have hobserver := hn.observer?_eq hwaits
  have hlt := hn.number_lt hwaits
  obtain ⟨hook, hhook, rfl, -⟩ := hwaits
  obtain ⟨hrequests, hfires⟩ := hs.explained.requests_of_observer? hhook hobserver hdue
  have hruns := deliver_runs hs.explained hrequests hdue.site_eq hfires
  obtain ⟨hn', hevolves⟩ := hruns.evolves hn
  have hposition := hruns.position_eq
  have hdelivery : scan.delivery? s event = some
      { position := s.position
        hook := event.hook
        kind := hook.kind
        number := event.observer
        observer
        trigger := event.trigger
        satisfied := (scan.deliver hook.kind observer event.trigger s).2 } := by
    simp only [delivery?, hhook, hobserver]
  refine ⟨_, hdelivery, rfl, rfl, rfl, rfl, ?_⟩
  simp only [handle, hhook, hobserver, position_emitIfDetected, hooks_emitIfDetected]
  rw [Delivery.leavers, List.filter_singleton, Delivery.isLast]
  cases hlast : (scan.deliver hook.kind observer event.trigger s).2 && hook.kind.isOneShot
  · simp only [Bool.false_eq_true, if_false]
    exact ⟨hposition, hn', hevolves⟩
  · simp only [if_true]
    have hremoved := HookRepository.evolves_removeObserver s.position hn' event.hook event.observer
    refine ⟨hposition, hn'.removeObserver .., hevolves.trans hremoved fun entry hentry => ?_⟩
    obtain rfl := List.mem_singleton.mp hentry
    exact hlt

variable (scan) in
/-- What was delivered, one delivery for each event, on the way from one state to another. -/
structure Serves (s : ScanState) (events : List HookEvent) (delivered : List Delivery)
    (s' : ScanState) : Prop where
  /-- No event is skipped. -/
  events_eq : delivered.map Delivery.event = events
  waits : ∀ d ∈ delivered, d.position = s.position ∧
    s.hooks.WaitsAt d.hook d.kind d.number d.observer
  sound : scan.Sound s'
  position_eq : s'.position = s.position
  numbered : s'.hooks.Numbered
  evolves : HookRepository.Evolves s.position (Delivery.leavers delivered) s.hooks s'.hooks

/-- **Every event is answered by one delivery**, in order: nobody leaves before its turn comes,
since an observer leaves with its own event only. -/
theorem serves_deliveriesFrom {s : ScanState} {events : List HookEvent} (hs : scan.Sound s)
    (hn : s.hooks.Numbered) (hdue : ∀ event ∈ events, scan.Due s event)
    (hwaits : ∀ event ∈ events, ∃ kind observer,
      s.hooks.WaitsAt event.hook kind event.observer observer)
    (hsorted : events.Pairwise HookRepository.Precedes) :
    scan.Serves s events (scan.deliveriesFrom s events) (events.foldl scan.handle s) := by
  induction events generalizing s with
  | nil => exact ⟨rfl, fun d hd => absurd hd List.not_mem_nil, hs, rfl, hn, .refl _ hn⟩
  | cons event events ih =>
    obtain ⟨hfirst, hrest⟩ := List.pairwise_cons.mp hsorted
    obtain ⟨kind, observer, hwait⟩ := hwaits event List.mem_cons_self
    have hdue' := hdue event List.mem_cons_self
    obtain ⟨d, hd, hposition, rfl, rfl, rfl, hposition', hn', hevolves⟩ :=
      handle_delivers hs hn hdue' hwait
    obtain ⟨hs', hkinds⟩ := hs.handle hdue'
    have hlater : ∀ {other}, other ∈ events → ∃ kind observer,
        s.hooks.WaitsAt other.hook kind other.observer observer :=
      fun hother => hwaits _ (List.mem_cons_of_mem _ hother)
    -- the others still wait
    have hothers : ∀ other ∈ events, ∃ kind observer,
        (scan.handle s d.event).hooks.WaitsAt other.hook kind other.observer observer := by
      intro other hother
      obtain ⟨kind', observer', hwait'⟩ := hlater hother
      refine ⟨kind', observer', (hevolves.old (hn.number_lt hwait')).mpr ⟨hwait', fun hmem => ?_⟩⟩
      obtain ⟨d', hd', -, hhook, hnumber⟩ := Delivery.mem_leavers.mp hmem
      obtain rfl := List.mem_singleton.mp hd'
      rcases hfirst other hother with hlt | ⟨-, hlt⟩
      · exact absurd hhook (Nat.ne_of_lt hlt)
      · exact absurd hnumber (Nat.ne_of_lt hlt)
    have hrest := ih hs' hn'
      (fun other hother => (hdue other (List.mem_cons_of_mem _ hother)).mono hkinds) hothers hrest
    -- whoever is served by them had its number before
    have hlt : ∀ d' ∈ scan.deliveriesFrom (scan.handle s d.event) events,
        d'.number < s.hooks.nextObserver := by
      intro d' hd'
      have hmem : d'.event ∈ events := hrest.events_eq ▸ List.mem_map_of_mem hd'
      obtain ⟨kind', observer', hwait'⟩ := hlater hmem
      exact hn.number_lt hwait'
    rw [deliveriesFrom, hd, Option.toList_some, List.singleton_append, List.foldl_cons]
    refine ⟨by rw [List.map_cons, hrest.events_eq], ?_, hrest.sound,
      hrest.position_eq.trans hposition', hrest.numbered, ?_⟩
    · intro d' hd'
      rcases List.mem_cons.mp hd' with rfl | hd'
      · exact ⟨hposition, hwait⟩
      · obtain ⟨hposition₂, hwait₂⟩ := hrest.waits d' hd'
        exact ⟨hposition₂.trans hposition', ((hevolves.old (hlt d' hd')).mp hwait₂).1⟩
    · have hevolves' := hrest.evolves
      rw [hposition'] at hevolves'
      rw [Delivery.leavers_cons]
      refine hevolves.trans hevolves' ?_
      rintro ⟨place, number⟩ hentry
      obtain ⟨d', hd', -, -, rfl⟩ := Delivery.mem_leavers.mp hentry
      exact hlt d' hd'

end Scan
end CryptoUsage
