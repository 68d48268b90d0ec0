import CryptoUsage.Proofs.Scan.Queue
import Mathlib.Data.List.Pairwise

/-!
# Exact delivery

Who is told of a site?  Everyone who was registered while an earlier node was visited, has not
left since, and waits on a hook that fires there; and each of them once.

The argument follows the hooks from node to node.  One visit serves the observers that are due, in
order, and then tries the root rules (`after_evolves`); all that it registers, it registers at its
own position, and all that it removes is named by what it delivered.  So the observers that wait
after some nodes are those that were registered at one of them and have not left
(`waitsAt_after_iff`), and what is delivered at a site can be read off the hooks before it
(`mem_deliveriesAt`).

## How it goes

* One visit.  Events are answered by one delivery each; root rules register and remove none.
* Who waits.  Numbers are given out in order and never twice, so that an observer with a number
  who waits later has waited all the time (`waitsAt_of_later`).
* What is delivered.  Hooks are asked in the order of their places, and their observers in that of
  their numbers.  Later nodes have later positions.  So the deliveries of a scan are sorted
  (`deliveries_sorted`).
* Who leaves.  Exactly those on a hook for one time who got what they waited for (`leaves_iff`);
  after that nothing is delivered under the number.

`DeliversExactly` collects what is claimed, `FiresAt` spells out what a hook asks of a site, and
`delivers_exactly` puts the parts together.
-/

set_option autoImplicit false

namespace CryptoUsage

/-- What a hook asks of a site. -/
def HookKind.FiresAt (u : CompilationUnit) (site : Site) : HookKind → Prop
  | parameter _ matcher _ | result _ matcher =>
    (∃ n, site = .invocation n ∨ site = .construction n) ∧
      matcher.matches u site MatchContext.forHook = true
  | enum name => (∃ n, site = .enumSelection n) ∧
      ∃ found, u.enumClassName? site = some found ∧ Text.simpleName found = Text.simpleName name

theorem HookKind.fires_iff {u : CompilationUnit} {site : Site} {kind : HookKind} :
    kind.fires u site = true ↔ kind.FiresAt u site := by
  cases kind <;> cases site <;>
    simp [HookKind.fires, HookKind.FiresAt, MethodMatcher.matches, selectsEnum,
      Site.isEnumSelection, Option.any_eq_true]

/-- One delivery comes before another one: by position, then by the places of the hooks, and then by
the numbers of the observers. -/
def Delivery.Precedes (d d' : Delivery) : Prop :=
  d.position < d'.position ∨ d.position = d'.position ∧ HookRepository.Precedes d.event d'.event

namespace Scan

variable (scan : Scan)

/-- An observer is registered while the node with the given number is visited: its number is given
out, and from then on it waits. -/
def Registers (node place : Nat) (kind : HookKind) (number : ObserverId) (observer : Observer) :
    Prop :=
  (scan.after node).hooks.nextObserver ≤ number ∧
    (scan.after (node + 1)).hooks.WaitsAt place kind number observer

/-- An observer leaves while the node with the given number is visited. -/
def Leaves (node place : Nat) (kind : HookKind) (number : ObserverId) (observer : Observer) :
    Prop :=
  (scan.after node).hooks.WaitsAt place kind number observer ∧
    ¬ (scan.after (node + 1)).hooks.WaitsAt place kind number observer

variable {scan} {s : ScanState} {node place : Nat} {kind : HookKind} {number : ObserverId}
  {observer : Observer} {site : Site}

/-! ## One visit -/

/-- Root rules register observers, and remove none. -/
theorem tryRoot_evolves (hs : scan.Sound s) (hn : s.hooks.Numbered) (n : NodeId) (rule : RuleId) :
    (scan.tryRoot n s rule).position = s.position ∧ (scan.tryRoot n s rule).hooks.Numbered ∧
      HookRepository.Evolves s.position [] s.hooks (scan.tryRoot n s rule).hooks := by
  obtain ⟨s', hruns, hcases⟩ := tryRoot_cases hs.explained n rule
  have hposition : s'.position = s.position := hruns.position_eq
  have hevolves : s'.hooks.Numbered ∧ HookRepository.Evolves s.position [] s.hooks s'.hooks :=
    hruns.evolves hn
  rcases hcases with heq | ⟨heq, -⟩ <;> rw [heq]
  · rw [position_emitIfDetected, hooks_emitIfDetected]
    exact ⟨hposition, hevolves⟩
  · exact ⟨hposition, hevolves⟩

theorem tryRoots_evolve (hs : scan.Sound s) (hn : s.hooks.Numbered) (n : NodeId)
    (rules : List RuleId) :
    (rules.foldl (scan.tryRoot n) s).position = s.position ∧
      (rules.foldl (scan.tryRoot n) s).hooks.Numbered ∧
      HookRepository.Evolves s.position [] s.hooks (rules.foldl (scan.tryRoot n) s).hooks := by
  induction rules generalizing s with
  | nil => exact ⟨rfl, hn, .refl _ hn⟩
  | cons rule rules ih =>
    obtain ⟨hposition, hn', hevolves⟩ := tryRoot_evolves hs hn n rule
    obtain ⟨hposition', hn'', hevolves'⟩ := ih (hs.tryRoot n rule) hn'
    rw [hposition] at hposition' hevolves'
    exact ⟨hposition', hn'', hevolves.trans hevolves' (by simp)⟩

/-- The events that are queued at a site are answered, one after the other. -/
theorem serves_deliveriesAt (hn : (scan.after node).hooks.Numbered)
    (hat : scan.siteAt? node = some site) :
    scan.Serves (meet (scan.after node))
      ((scan.after node).hooks.observe scan.unit ((scan.after node).position + 1) site)
      (scan.deliveriesAt node) (scan.servedAll site (meet (scan.after node))) := by
  obtain ⟨n, hnode, hsite⟩ := Option.bind_eq_some_iff.mp hat
  have hsound : scan.Sound (meet (scan.after node)) :=
    (sound_kept scan).meet (.meets node) (sound_after scan node)
  have hself : scan.unit.site? site.node = some site := by
    rw [CompilationUnit.node_of_site? hsite, hsite]
  rw [deliveriesAt_of_site hat, servedAll, served, List.take_length]
  refine serves_deliveriesFrom hsound hn (fun event hevent => due_of_mem_observe hself hevent)
    (fun event hevent => ?_) (HookRepository.observe_sorted hn ..)
  obtain ⟨-, kind, observer, hwaits, -⟩ := HookRepository.mem_observe.mp hevent
  exact ⟨kind, observer, hwaits⟩

/-- **What a visit does to the hooks.**  It removes those who left with what was delivered, and
registers others at its position. -/
theorem after_succ_evolves (hn : (scan.after node).hooks.Numbered)
    (hnode : node < (scan.unit.tree.preorder SyntaxTree.root).length) :
    (scan.after (node + 1)).position = (scan.after node).position + 1 ∧
      (scan.after (node + 1)).hooks.Numbered ∧
      HookRepository.Evolves ((scan.after node).position + 1)
        (Delivery.leavers (scan.deliveriesAt node)) (scan.after node).hooks
        (scan.after (node + 1)).hooks := by
  have hn? := List.getElem?_eq_getElem hnode
  rw [after_succ hn?]
  cases hsite : scan.unit.site? (scan.unit.tree.preorder SyntaxTree.root)[node] with
  | none =>
    rw [visit_of_no_site hsite,
      deliveriesAt_of_no_site (by rw [siteAt?, hn?, Option.bind_some, hsite])]
    exact ⟨rfl, hn, .refl _ hn⟩
  | some site =>
    have hsite' : scan.siteAt? node = some site := by rw [siteAt?, hn?, Option.bind_some, hsite]
    have hserves := serves_deliveriesAt hn hsite'
    obtain ⟨hposition, hn', hevolves⟩ := tryRoots_evolve hserves.sound hserves.numbered
      (scan.unit.tree.preorder SyntaxTree.root)[node] scan.roots
    rw [hserves.position_eq] at hposition hevolves
    rw [visit_of_site hsite, tried, List.take_length]
    have htrans := hserves.evolves.trans hevolves (by simp)
    rw [List.append_nil] at htrans
    exact ⟨hposition, hn', htrans⟩

theorem numbered_after (scan : Scan) (node : Nat) : (scan.after node).hooks.Numbered := by
  induction node with
  | zero => exact HookRepository.numbered_empty
  | succ node ih =>
    by_cases hnode : node < (scan.unit.tree.preorder SyntaxTree.root).length
    · exact (after_succ_evolves ih hnode).2.1
    · rw [after_of_length_le (Nat.le_of_not_lt hnode)]
      exact ih

/-- The position is the number of nodes that were met. -/
theorem position_after (h : node ≤ (scan.unit.tree.preorder SyntaxTree.root).length) :
    (scan.after node).position = node := by
  induction node with
  | zero => rfl
  | succ node ih =>
    rw [(after_succ_evolves (numbered_after scan node) h).1, ih (Nat.le_of_succ_le h)]

theorem siteAt?_lt (h : scan.siteAt? node = some site) :
    node < (scan.unit.tree.preorder SyntaxTree.root).length := by
  obtain ⟨n, hnode, -⟩ := Option.bind_eq_some_iff.mp h
  exact (List.getElem?_eq_some_iff.mp hnode).1

theorem after_evolves (scan : Scan) (node : Nat) :
    HookRepository.Evolves (node + 1) (Delivery.leavers (scan.deliveriesAt node))
      (scan.after node).hooks (scan.after (node + 1)).hooks := by
  have hn := numbered_after scan node
  by_cases hnode : node < (scan.unit.tree.preorder SyntaxTree.root).length
  · have hevolves := (after_succ_evolves hn hnode).2.2
    rwa [position_after (Nat.le_of_lt hnode)] at hevolves
  · have hlen := Nat.le_of_not_lt hnode
    rw [after_of_length_le hlen,
      deliveriesAt_of_no_site (by rw [siteAt?, List.getElem?_eq_none hlen, Option.bind_none])]
    exact .refl _ hn

/-! ## Who waits -/

/-- **Who waits was registered and has not left.** -/
theorem waitsAt_after_iff :
    (scan.after node).hooks.WaitsAt place kind number observer ↔
      ∃ earlier < node, scan.Registers earlier place kind number observer ∧
        ∀ between, earlier < between → between < node →
          ¬ scan.Leaves between place kind number observer := by
  induction node with
  | zero =>
    constructor
    · rintro ⟨hook, hhook, -⟩
      simp [after, HookRepository.hook?] at hhook
    · rintro ⟨earlier, hlt, -⟩
      exact absurd hlt (Nat.not_lt_zero _)
  | succ node ih =>
    constructor
    · intro hwaits
      by_cases hold : number < (scan.after node).hooks.nextObserver
      · have hbefore := ((after_evolves scan node).old hold).mp hwaits
        obtain ⟨earlier, hlt, hregisters, hstays⟩ := ih.mp hbefore.1
        refine ⟨earlier, Nat.lt_succ_of_lt hlt, hregisters, fun between hgt hle => ?_⟩
        rcases Nat.lt_succ_iff_lt_or_eq.mp hle with hlt' | rfl
        · exact hstays between hgt hlt'
        · exact fun hleaves => hleaves.2 hwaits
      · exact ⟨node, Nat.lt_succ_self _, ⟨Nat.le_of_not_lt hold, hwaits⟩,
          fun between hgt hle => absurd hgt (Nat.not_lt_of_le (Nat.le_of_lt_succ hle))⟩
    · rintro ⟨earlier, hlt, hregisters, hstays⟩
      rcases Nat.lt_succ_iff_lt_or_eq.mp hlt with hlt' | rfl
      · have hbefore := ih.mpr ⟨earlier, hlt', hregisters,
          fun between hgt hle => hstays between hgt (Nat.lt_succ_of_lt hle)⟩
        by_contra hgone
        exact hstays node hlt' (Nat.lt_succ_self _) ⟨hbefore, hgone⟩
      · exact hregisters.2

theorem Registers.registeredAt_eq (h : scan.Registers node place kind number observer) :
    observer.registeredAt = node + 1 := (after_evolves scan node).new h.1 h.2

/-- Observers that wait were registered at an earlier position than the next. -/
theorem registeredAt_le (h : (scan.after node).hooks.WaitsAt place kind number observer) :
    observer.registeredAt ≤ node := by
  obtain ⟨earlier, hlt, hregisters, -⟩ := waitsAt_after_iff.mp h
  rw [hregisters.registeredAt_eq]
  exact hlt

theorem nextObserver_mono (scan : Scan) {later : Nat} (hle : node ≤ later) :
    (scan.after node).hooks.nextObserver ≤ (scan.after later).hooks.nextObserver := by
  obtain ⟨k, rfl⟩ := Nat.exists_eq_add_of_le hle
  induction k with
  | zero => exact Nat.le_refl _
  | succ k ih =>
    exact Nat.le_trans (ih (Nat.le_add_right node k)) (after_evolves scan (node + k)).next_le

/-- Who has a number and waits later has waited all the time. -/
theorem waitsAt_of_later {later : Nat} (hle : node ≤ later)
    (hnumber : number < (scan.after node).hooks.nextObserver)
    (h : (scan.after later).hooks.WaitsAt place kind number observer) :
    (scan.after node).hooks.WaitsAt place kind number observer := by
  obtain ⟨k, rfl⟩ := Nat.exists_eq_add_of_le hle
  induction k with
  | zero => exact h
  | succ k ih =>
    have hle' := Nat.le_add_right node k
    have hnumber' := Nat.lt_of_lt_of_le hnumber (nextObserver_mono scan hle')
    exact ih hle' (((after_evolves scan (node + k)).old hnumber').mp h).1

/-! ## What is delivered -/

theorem siteAt?_of_mem_deliveriesAt {d : Delivery} (h : d ∈ scan.deliveriesAt node) :
    ∃ site, scan.siteAt? node = some site := by
  cases hsite : scan.siteAt? node with
  | some site => exact ⟨site, rfl⟩
  | none =>
    rw [deliveriesAt_of_no_site hsite] at h
    cases h

/-- What holds of a delivery at a node. -/
theorem deliveriesAt_spec {d : Delivery} (h : d ∈ scan.deliveriesAt node) :
    d.position = node + 1 ∧ scan.siteAt? node = some d.trigger ∧
      (scan.after node).hooks.WaitsAt d.hook d.kind d.number d.observer ∧
      d.kind.FiresAt scan.unit d.trigger := by
  have hn := numbered_after scan node
  obtain ⟨site, hsite⟩ := siteAt?_of_mem_deliveriesAt h
  have hserves := serves_deliveriesAt hn hsite
  obtain ⟨hposition, hwaits⟩ := hserves.waits d h
  have hevent : d.event ∈ (scan.after node).hooks.observe scan.unit
      ((scan.after node).position + 1) site := hserves.events_eq ▸ List.mem_map_of_mem h
  obtain ⟨htrigger, kind, observer, hwaits', -, hfires⟩ := HookRepository.mem_observe.mp hevent
  obtain ⟨rfl, -⟩ := hn.observer_eq hwaits hwaits'
  obtain rfl : d.trigger = site := htrigger
  refine ⟨?_, hsite, hwaits, HookKind.fires_iff.mp hfires⟩
  rw [hposition]
  exact congrArg (· + 1) (position_after (Nat.le_of_lt (siteAt?_lt hsite)))

/-- **Who is told of a site**: everyone who waits on a hook that fires there. -/
theorem mem_deliveriesAt (hsite : scan.siteAt? node = some site) :
    (∃ satisfied, (⟨node + 1, place, kind, number, observer, site, satisfied⟩ : Delivery) ∈
        scan.deliveriesAt node) ↔
      (scan.after node).hooks.WaitsAt place kind number observer ∧
        kind.FiresAt scan.unit site := by
  constructor
  · rintro ⟨satisfied, hmem⟩
    exact (deliveriesAt_spec hmem).2.2
  · rintro ⟨hwaits, hfires⟩
    have hn := numbered_after scan node
    have hposition := position_after (Nat.le_of_lt (siteAt?_lt hsite))
    have hserves := serves_deliveriesAt hn hsite
    have hevent : { hook := place, observer := number, trigger := site : HookEvent } ∈
        (scan.after node).hooks.observe scan.unit ((scan.after node).position + 1) site := by
      refine HookRepository.mem_observe.mpr ⟨rfl, kind, observer, hwaits, ?_,
        HookKind.fires_iff.mpr hfires⟩
      rw [hposition]
      exact Nat.lt_succ_of_le (registeredAt_le hwaits)
    rw [← hserves.events_eq] at hevent
    obtain ⟨d, hd, heq⟩ := List.mem_map.mp hevent
    obtain ⟨hposition', -, hwaits', -⟩ := deliveriesAt_spec hd
    obtain ⟨position, place', kind', number', observer', trigger', satisfied⟩ := d
    cases heq
    obtain ⟨rfl, rfl⟩ := hn.observer_eq hwaits hwaits'
    obtain rfl := hposition'
    exact ⟨satisfied, hd⟩

theorem mem_deliveries {d : Delivery} :
    d ∈ scan.deliveries ↔ ∃ node, d.position = node + 1 ∧ d ∈ scan.deliveriesAt node := by
  rw [deliveries_eq, List.mem_flatMap]
  constructor
  · rintro ⟨node, -, hmem⟩
    exact ⟨node, (deliveriesAt_spec hmem).1, hmem⟩
  · rintro ⟨node, -, hmem⟩
    obtain ⟨site, hsite⟩ := siteAt?_of_mem_deliveriesAt hmem
    exact ⟨node, List.mem_range.mpr (siteAt?_lt hsite), hmem⟩

theorem mem_deliveriesAt_of_mem {d : Delivery} (h : d ∈ scan.deliveries)
    (hposition : d.position = node + 1) : d ∈ scan.deliveriesAt node := by
  obtain ⟨node', hposition', hmem⟩ := mem_deliveries.mp h
  obtain rfl : node = node' := Nat.succ.inj (hposition.symm.trans hposition')
  exact hmem

/-- Deliveries are in order. -/
theorem deliveries_sorted (scan : Scan) : scan.deliveries.Pairwise Delivery.Precedes := by
  rw [deliveries_eq, List.pairwise_flatMap]
  constructor
  · intro node hnode
    cases hsite : scan.siteAt? node with
    | none =>
      rw [deliveriesAt_of_no_site hsite]
      exact List.Pairwise.nil
    | some site =>
      have hn := numbered_after scan node
      have hsorted :=
        HookRepository.observe_sorted hn scan.unit ((scan.after node).position + 1) site
      rw [← (serves_deliveriesAt hn hsite).events_eq, List.pairwise_map] at hsorted
      refine hsorted.imp_of_mem fun {d d'} hd hd' hprecedes => .inr ⟨?_, hprecedes⟩
      rw [(deliveriesAt_spec hd).1, (deliveriesAt_spec hd').1]
  · refine List.pairwise_lt_range.imp fun {node node'} hlt d hd d' hd' => .inl ?_
    rw [(deliveriesAt_spec hd).1, (deliveriesAt_spec hd').1]
    exact Nat.succ_lt_succ hlt

/-! ## Who leaves -/

/-- **Who leaves got what it waited for**, on a hook that is for one time. -/
theorem leaves_iff :
    scan.Leaves node place kind number observer ↔ kind.isOneShot = true ∧
      ∃ trigger, (⟨node + 1, place, kind, number, observer, trigger, true⟩ : Delivery) ∈
        scan.deliveriesAt node := by
  have hn := numbered_after scan node
  have hevolves := after_evolves scan node
  constructor
  · rintro ⟨hwaits, hgone⟩
    rw [hevolves.old (hn.number_lt hwaits), not_and, not_not] at hgone
    obtain ⟨d, hd, hlast, rfl, rfl⟩ := Delivery.mem_leavers.mp (hgone hwaits)
    obtain ⟨hposition, -, hwaits', -⟩ := deliveriesAt_spec hd
    obtain ⟨hsatisfied, honce⟩ := Bool.and_eq_true_iff.mp hlast
    obtain ⟨position, place, kind, number, observer, trigger, satisfied⟩ := d
    obtain ⟨rfl, rfl⟩ := hn.observer_eq hwaits hwaits'
    obtain rfl := hposition
    obtain rfl := hsatisfied
    exact ⟨honce, trigger, hd⟩
  · rintro ⟨honce, trigger, hmem⟩
    have hwaits := (deliveriesAt_spec hmem).2.2.1
    refine ⟨hwaits, fun hstays => ?_⟩
    refine ((hevolves.old (hn.number_lt hwaits)).mp hstays).2 ?_
    exact Delivery.mem_leavers.mpr ⟨_, hmem, by rw [Delivery.isLast, honce]; rfl, rfl, rfl⟩

/-- Nothing is delivered under a number once its observer has left. -/
theorem position_le_of_isLast {d d' : Delivery} (hd : d ∈ scan.deliveries)
    (hd' : d' ∈ scan.deliveries) (hnumber : d.number = d'.number) (hlast : d.isLast = true) :
    d'.position ≤ d.position := by
  obtain ⟨node, hposition, hmem⟩ := mem_deliveries.mp hd
  obtain ⟨node', hposition', hmem'⟩ := mem_deliveries.mp hd'
  obtain ⟨-, -, hwaits, -⟩ := deliveriesAt_spec hmem
  obtain ⟨-, -, hwaits', -⟩ := deliveriesAt_spec hmem'
  have hn := numbered_after scan node
  have hlt := hn.number_lt hwaits
  by_contra hafter
  have hle : node + 1 ≤ node' := by omega
  rw [← hnumber] at hwaits'
  have hnext := waitsAt_of_later hle (Nat.lt_of_lt_of_le hlt (after_evolves scan node).next_le)
    hwaits'
  obtain ⟨hnow, hstays⟩ := ((after_evolves scan node).old hlt).mp hnext
  refine hstays (Delivery.mem_leavers.mpr ⟨d, hmem, hlast, ?_, rfl⟩)
  exact hn.place_eq hwaits hnow

/-- A number names one observer, on one hook, for the whole scan. -/
theorem observer_eq_of_le {d d' : Delivery} (hd : d ∈ scan.deliveries) (hd' : d' ∈ scan.deliveries)
    (hnumber : d.number = d'.number) (hle : d.position ≤ d'.position) :
    d.hook = d'.hook ∧ d.kind = d'.kind ∧ d.observer = d'.observer := by
  obtain ⟨node, hposition, hmem⟩ := mem_deliveries.mp hd
  obtain ⟨node', hposition', hmem'⟩ := mem_deliveries.mp hd'
  obtain ⟨-, -, hwaits, -⟩ := deliveriesAt_spec hmem
  obtain ⟨-, -, hwaits', -⟩ := deliveriesAt_spec hmem'
  have hn := numbered_after scan node
  rw [← hnumber] at hwaits'
  have hle' : node ≤ node' := by omega
  have hnow := waitsAt_of_later hle' (hn.number_lt hwaits) hwaits'
  have hplace : d.hook = d'.hook := hn.place_eq hwaits hnow
  exact ⟨hplace, hn.observer_eq hwaits (hplace ▸ hnow)⟩

theorem observer_eq {d d' : Delivery} (hd : d ∈ scan.deliveries) (hd' : d' ∈ scan.deliveries)
    (hnumber : d.number = d'.number) :
    d.hook = d'.hook ∧ d.kind = d'.kind ∧ d.observer = d'.observer := by
  rcases Nat.le_total d.position d'.position with hle | hle
  · exact observer_eq_of_le hd hd' hnumber hle
  · obtain ⟨hplace, hkind, hobserver⟩ := observer_eq_of_le hd' hd hnumber.symm hle
    exact ⟨hplace.symm, hkind.symm, hobserver.symm⟩

/-- At one position a number is served once. -/
theorem delivery_eq {d d' : Delivery} (hd : d ∈ scan.deliveries) (hd' : d' ∈ scan.deliveries)
    (hnumber : d.number = d'.number) (hposition : d.position = d'.position) : d = d' := by
  have hplace := (observer_eq hd hd' hnumber).1
  have hordered : scan.deliveries.Pairwise fun x y => x.Precedes y ∨ y.Precedes x :=
    (deliveries_sorted scan).imp .inl
  have : Std.Symm fun x y : Delivery => x.Precedes y ∨ y.Precedes x := ⟨fun _ _ => Or.symm⟩
  by_contra hne
  rcases hordered.forall hd hd' hne with
    (hlt | ⟨-, hlt | ⟨-, hlt⟩⟩) | (hlt | ⟨-, hlt | ⟨-, hlt⟩⟩)
  · exact absurd hposition (Nat.ne_of_lt hlt)
  · exact absurd hplace (Nat.ne_of_lt hlt)
  · exact absurd hnumber (Nat.ne_of_lt hlt)
  · exact absurd hposition.symm (Nat.ne_of_lt hlt)
  · exact absurd hplace.symm (Nat.ne_of_lt hlt)
  · exact absurd hnumber.symm (Nat.ne_of_lt hlt)

/-! ## Exactness -/

variable (scan) in
/-- An observer is served at a site when the node with the given number is visited, and gets what it
waited for or not. -/
def Delivers (node place : Nat) (kind : HookKind) (number : ObserverId) (observer : Observer)
    (site : Site) (satisfied : Bool) : Prop :=
  (⟨node + 1, place, kind, number, observer, site, satisfied⟩ : Delivery) ∈ scan.deliveries

variable (scan) in
/-- Hooks are delivered exactly. -/
structure DeliversExactly : Prop where
  /-- The scan with a queue is the scan: its states between two nodes are the same. -/
  state_eq : ∀ node, (scan.queuedAfter node).state = scan.after node
  /-- An observer is told of a site if and only if it was registered at an earlier node, has not
  left since, and its hook fires there. -/
  delivers_iff : ∀ {node place kind number observer site},
    (∃ satisfied, scan.Delivers node place kind number observer site satisfied) ↔
      scan.siteAt? node = some site ∧
        (∃ earlier < node, scan.Registers earlier place kind number observer ∧
          ∀ between, earlier < between → between < node →
            ¬ scan.Leaves between place kind number observer) ∧
        kind.FiresAt scan.unit site
  /-- Every delivery comes once, in the order of nodes, of hooks, and of registration. -/
  sorted : scan.deliveries.Pairwise Delivery.Precedes
  /-- Whoever is given a number is registered with it: it waits when the visit is over. -/
  registers : ∀ {node number}, (scan.after node).hooks.nextObserver ≤ number →
    number < (scan.after (node + 1)).hooks.nextObserver →
    ∃ place kind observer, scan.Registers node place kind number observer ∧
      observer.registeredAt = node + 1
  /-- When the root rules are tried at a site, no event is queued, and every event that was queued
  for the site was answered by one delivery. -/
  drained : ∀ {node site}, scan.siteAt? node = some site →
    (scan.ready site (scan.queuedAfter node)).queue = [] ∧
      ∃ delivered, (scan.ready site (scan.queuedAfter node)).delivered =
          (scan.queuedAfter node).delivered ++ delivered ∧
        delivered.map Delivery.event =
          (scan.after node).hooks.observe scan.unit (node + 1) site
  /-- Observers leave when they got what they waited for on a hook for one time, and only then. -/
  leaves_iff : ∀ {node place kind number observer},
    scan.Leaves node place kind number observer ↔ kind.isOneShot = true ∧
      ∃ site, scan.Delivers node place kind number observer site true
  /-- Observers of parameters stay. -/
  stays : ∀ {node later place method matcher index number observer}, node ≤ later →
    (scan.after node).hooks.WaitsAt place (.parameter method matcher index) number observer →
    (scan.after later).hooks.WaitsAt place (.parameter method matcher index) number observer
  /-- Observers of results and enums get what they waited for once. -/
  satisfied_once : ∀ {d d' : Delivery}, d ∈ scan.deliveries → d' ∈ scan.deliveries →
    d.kind.isOneShot = true → d.number = d'.number → d.satisfied = true → d'.satisfied = true →
    d = d'

theorem delivers_iff_mem {satisfied : Bool} :
    scan.Delivers node place kind number observer site satisfied ↔
      (⟨node + 1, place, kind, number, observer, site, satisfied⟩ : Delivery) ∈
        scan.deliveriesAt node :=
  ⟨fun h => mem_deliveriesAt_of_mem h rfl, fun h => mem_deliveries.mpr ⟨node, rfl, h⟩⟩

theorem ready_eq (hsite : scan.siteAt? node = some site) :
    scan.ready site (scan.queuedAfter node) =
      { state := scan.servedAll site (meet (scan.after node))
        queue := []
        delivered := (scan.queuedAfter node).delivered ++ scan.deliveriesAt node } := by
  rw [ready, queuedAfter_eq, deliveriesAt_of_site hsite, servedAll, served, List.take_length]
  simp only [List.nil_append]
  exact drain_eq ..

/-- **Hook delivery is exact.** -/
theorem delivers_exactly (scan : Scan) : scan.DeliversExactly where
  state_eq node := by rw [queuedAfter_eq]
  delivers_iff {node place kind number observer site} := by
    simp only [delivers_iff_mem]
    constructor
    · rintro ⟨satisfied, hmem⟩
      obtain ⟨-, hsite, hwaits, hfires⟩ := deliveriesAt_spec hmem
      exact ⟨hsite, waitsAt_after_iff.mp hwaits, hfires⟩
    · rintro ⟨hsite, hregistered, hfires⟩
      exact (mem_deliveriesAt hsite).mpr ⟨waitsAt_after_iff.mpr hregistered, hfires⟩
  sorted := deliveries_sorted scan
  registers {node number} hle hlt := by
    obtain ⟨place, kind, observer, hwaits⟩ := (after_evolves scan node).given hle hlt
    exact ⟨place, kind, observer, ⟨hle, hwaits⟩, (after_evolves scan node).new hle hwaits⟩
  drained {node site} hsite := by
    rw [ready_eq hsite]
    refine ⟨rfl, scan.deliveriesAt node, rfl, ?_⟩
    have hserves := serves_deliveriesAt (numbered_after scan node) hsite
    rw [hserves.events_eq, position_after (Nat.le_of_lt (siteAt?_lt hsite))]
  leaves_iff {node place kind number observer} := by
    simp only [delivers_iff_mem]
    exact leaves_iff
  stays {node later place method matcher index number observer} hle hwaits := by
    obtain ⟨k, rfl⟩ := Nat.exists_eq_add_of_le hle
    induction k with
    | zero => exact hwaits
    | succ k ih =>
      have hnow := ih (Nat.le_add_right node k)
      by_contra hgone
      cases (leaves_iff.mp ⟨hnow, hgone⟩).1
  satisfied_once {d d'} hd hd' honce hnumber hsatisfied hsatisfied' := by
    have hlast : d.isLast = true := by rw [Delivery.isLast, hsatisfied, honce]; rfl
    have hlast' : d'.isLast = true := by
      rw [Delivery.isLast, hsatisfied', ← (observer_eq hd hd' hnumber).2.1, honce]
      rfl
    refine delivery_eq hd hd' hnumber (Nat.le_antisymm ?_ ?_)
    · exact position_le_of_isLast hd' hd hnumber.symm hlast'
    · exact position_le_of_isLast hd hd' hnumber hlast

/-! ### A result that is awaited

Nothing is known of `y`, so the size of the key is awaited from the results of `f`.  The call of `f`
in the argument gives none, the next one does, and the last one comes too late.

    def f(x):
        return x
    g(f(y))
    f(3)
    f(4)
-/

namespace Awaited

/-- The nodes of the program. -/
def nodes : Array SyntaxNode := #[
  ⟨none, "module", true, none, ⟨1, 1, 0, 41⟩, "def f(x):\n    return x\ng(f(y))\nf(3)\nf(4)\n"⟩,
  ⟨some 0, "function_definition", true, none, ⟨1, 1, 0, 22⟩, "def f(x):\n    return x"⟩,
  ⟨some 1, "def", false, none, ⟨1, 1, 0, 3⟩, "def"⟩,
  ⟨some 1, "identifier", true, some "name", ⟨1, 5, 4, 5⟩, "f"⟩,
  ⟨some 1, "parameters", true, some "parameters", ⟨1, 6, 5, 8⟩, "(x)"⟩,
  ⟨some 4, "(", false, none, ⟨1, 6, 5, 6⟩, "("⟩,
  ⟨some 4, "identifier", true, none, ⟨1, 7, 6, 7⟩, "x"⟩,
  ⟨some 4, ")", false, none, ⟨1, 8, 7, 8⟩, ")"⟩,
  ⟨some 1, ":", false, none, ⟨1, 9, 8, 9⟩, ":"⟩,
  ⟨some 1, "block", true, some "body", ⟨2, 5, 14, 22⟩, "return x"⟩,
  ⟨some 9, "return_statement", true, none, ⟨2, 5, 14, 22⟩, "return x"⟩,
  ⟨some 10, "return", false, none, ⟨2, 5, 14, 20⟩, "return"⟩,
  ⟨some 10, "identifier", true, none, ⟨2, 12, 21, 22⟩, "x"⟩,
  ⟨some 0, "expression_statement", true, none, ⟨3, 1, 23, 30⟩, "g(f(y))"⟩,
  ⟨some 13, "call", true, none, ⟨3, 1, 23, 30⟩, "g(f(y))"⟩,
  ⟨some 14, "identifier", true, some "function", ⟨3, 1, 23, 24⟩, "g"⟩,
  ⟨some 14, "argument_list", true, some "arguments", ⟨3, 2, 24, 30⟩, "(f(y))"⟩,
  ⟨some 16, "(", false, none, ⟨3, 2, 24, 25⟩, "("⟩,
  ⟨some 16, "call", true, none, ⟨3, 3, 25, 29⟩, "f(y)"⟩,
  ⟨some 18, "identifier", true, some "function", ⟨3, 3, 25, 26⟩, "f"⟩,
  ⟨some 18, "argument_list", true, some "arguments", ⟨3, 4, 26, 29⟩, "(y)"⟩,
  ⟨some 20, "(", false, none, ⟨3, 4, 26, 27⟩, "("⟩,
  ⟨some 20, "identifier", true, none, ⟨3, 5, 27, 28⟩, "y"⟩,
  ⟨some 20, ")", false, none, ⟨3, 6, 28, 29⟩, ")"⟩,
  ⟨some 16, ")", false, none, ⟨3, 7, 29, 30⟩, ")"⟩,
  ⟨some 0, "expression_statement", true, none, ⟨4, 1, 31, 35⟩, "f(3)"⟩,
  ⟨some 25, "call", true, none, ⟨4, 1, 31, 35⟩, "f(3)"⟩,
  ⟨some 26, "identifier", true, some "function", ⟨4, 1, 31, 32⟩, "f"⟩,
  ⟨some 26, "argument_list", true, some "arguments", ⟨4, 2, 32, 35⟩, "(3)"⟩,
  ⟨some 28, "(", false, none, ⟨4, 2, 32, 33⟩, "("⟩,
  ⟨some 28, "integer", true, none, ⟨4, 3, 33, 34⟩, "3"⟩,
  ⟨some 28, ")", false, none, ⟨4, 4, 34, 35⟩, ")"⟩,
  ⟨some 0, "expression_statement", true, none, ⟨5, 1, 36, 40⟩, "f(4)"⟩,
  ⟨some 32, "call", true, none, ⟨5, 1, 36, 40⟩, "f(4)"⟩,
  ⟨some 33, "identifier", true, some "function", ⟨5, 1, 36, 37⟩, "f"⟩,
  ⟨some 33, "argument_list", true, some "arguments", ⟨5, 2, 37, 40⟩, "(4)"⟩,
  ⟨some 35, "(", false, none, ⟨5, 2, 37, 38⟩, "("⟩,
  ⟨some 35, "integer", true, none, ⟨5, 3, 38, 39⟩, "4"⟩,
  ⟨some 35, ")", false, none, ⟨5, 4, 39, 40⟩, ")"⟩]

/-- The rule that the argument of a call of `g` is a key of so many bytes. -/
def rule : Rule where
  kind := .full
  matcher := { objectTypes := .any, methodNames := .oneOf ["g"], parameterTypes := .exactly ["*"] }
  parameters := [{ typeName := "*", role := .detectable .keyBytes }]
  next := []
  action := none
  bundle := "Default"
  exactType := false

/-- The scan of the program. -/
def work : Scan where
  catalog := { rules := #[rule], earlier := by decide +kernel }
  roots := [0]
  unit :=
    { language := .python
      filePath := "m.py"
      tree := { nodes, parent_lt := by decide +kernel } }

/-- The hook on what `f` returns. -/
def onResult : HookKind := .result 1 (.ofDefinition "m" "f" [anything])

/-- Who waits for it on behalf of the call of `g`. -/
def taker : Observer :=
  { requester := 0, root := 0, payload := .value 0 ⟨0, 0⟩ .keyBytes none, registeredAt := 15 }

end Awaited

/-- The observer is told of the first two calls of `f` after it, gets what it waited for with the
second and leaves; so it is not told of the last one, at which the hook fires as well. -/
theorem result_is_awaited_once :
    Awaited.work.deliveries.map (fun d => (d.position, d.trigger, d.satisfied)) =
        [(19, .invocation 18, false), (27, .invocation 26, true)] ∧
      Awaited.work.Leaves 26 0 Awaited.onResult 0 Awaited.taker ∧
      Awaited.work.siteAt? 33 = some (.invocation 33) ∧
      Awaited.onResult.FiresAt Awaited.work.unit (.invocation 33) := by
  have hat : Awaited.work.deliveriesAt 26 =
      [⟨27, 0, Awaited.onResult, 0, Awaited.taker, .invocation 26, true⟩] := rfl
  refine ⟨?_, leaves_iff.mpr ⟨rfl, .invocation 26, ?_⟩, by decide +kernel,
    HookKind.fires_iff.mp (by decide +kernel)⟩
  · rw [deliveries_eq]
    decide +kernel
  · rw [hat]
    exact List.mem_singleton_self _

end Scan
end CryptoUsage
