import CryptoUsage.Proofs.Scan.Warrant

/-!
# The course of a scan

A scan meets the nodes one after the other.  At a site it serves the observers whose hooks fire
there and then tries the root rules.  `Advances` relates the states before and after each single
event of this kind, and `Kept` is the induction over all of them.

## What is here

* States on the way.  `after` is the state when so many nodes were met, `served` and `tried` are
  the states in the middle of a node, when some of the events that are due were handled and when
  some of the root rules were tried.  A visit is the last of these (`visit_of_site`), and a
  finished scan is the state after all nodes (`run_eq_after`).
* Due events.  The events of a site are computed before any of them is handled, and by the time
  one is handled, hooks may have been added.  As hooks keep their places, the event still names
  the hook that fired (`Due.mono`).
* Induction.  A property is kept if the empty state has it and each event keeps it (`Kept`), where
  the proof for an event may use that it is due.  Then it holds in every state on the way
  (`Kept.served`, `Kept.tried`) and after any number of nodes (`Kept.after`).
* Single events.  `Advances.cases_of_kept` gives the three things that an event can be, with a
  kept property before and after.
* The way to the end.  From the state after an event that emits a root the scan goes on to its end
  (`Advances.proceeds_run`), so what every event keeps from then on holds at the end.
-/

set_option autoImplicit false

namespace CryptoUsage
namespace Scan

variable (scan : Scan)

/-! ## States on the way -/

/-- The state after a scan has met the first `count` nodes. -/
def after (count : Nat) : ScanState :=
  ((scan.unit.tree.preorder SyntaxTree.root).take count).foldl scan.visit {}

/-- The state in which one more node is met. -/
def meet (s : ScanState) : ScanState := { s with position := s.position + 1 }

/-- The state after the first `count` events of those due at a site are handled. -/
def served (site : Site) (s : ScanState) (count : Nat) : ScanState :=
  ((s.hooks.observe scan.unit s.position site).take count).foldl scan.handle s

/-- The state after the first `count` root rules are tried at a node. -/
def tried (n : NodeId) (s : ScanState) (count : Nat) : ScanState :=
  (scan.roots.take count).foldl (scan.tryRoot n) s

/-- The state after everything that is due at a site is handled. -/
def servedAll (site : Site) (s : ScanState) : ScanState :=
  scan.served site s (s.hooks.observe scan.unit s.position site).length

/-- The state before and after a single event of a scan. -/
inductive Advances : ScanState → ScanState → Prop
  | meets (count : Nat) : Advances (scan.after count) (meet (scan.after count))
  | serves {count : Nat} {n : NodeId} {site : Site} {event : HookEvent} {i : Nat}
      (node_eq : (scan.unit.tree.preorder SyntaxTree.root)[count]? = some n)
      (site_eq : scan.unit.site? n = some site)
      (event_eq : ((meet (scan.after count)).hooks.observe scan.unit
        (meet (scan.after count)).position site)[i]? = some event) :
      Advances (scan.served site (meet (scan.after count)) i)
        (scan.handle (scan.served site (meet (scan.after count)) i) event)
  | tries {count : Nat} {n : NodeId} {site : Site} {rule : RuleId} {i : Nat}
      (node_eq : (scan.unit.tree.preorder SyntaxTree.root)[count]? = some n)
      (site_eq : scan.unit.site? n = some site) (rule_eq : scan.roots[i]? = some rule) :
      Advances (scan.tried n (scan.servedAll site (meet (scan.after count))) i)
        (scan.tryRoot n (scan.tried n (scan.servedAll site (meet (scan.after count))) i) rule)

variable {scan} {s s' : ScanState}

theorem foldl_take_succ {α β : Type} (f : β → α → β) (b : β) {l : List α} {i : Nat} {a : α}
    (h : l[i]? = some a) : (l.take (i + 1)).foldl f b = f ((l.take i).foldl f b) a := by
  rw [List.take_add_one, h, List.foldl_append]
  rfl

theorem after_succ {count : Nat} {n : NodeId}
    (h : (scan.unit.tree.preorder SyntaxTree.root)[count]? = some n) :
    scan.after (count + 1) = scan.visit (scan.after count) n := foldl_take_succ _ _ h

/-- After all nodes nothing more happens. -/
theorem after_of_length_le {count : Nat}
    (h : (scan.unit.tree.preorder SyntaxTree.root).length ≤ count) :
    scan.after (count + 1) = scan.after count := by
  rw [after, after, List.take_of_length_le h, List.take_of_length_le (Nat.le_succ_of_le h)]

theorem run_eq_after (scan : Scan) :
    scan.run = scan.after (scan.unit.tree.preorder SyntaxTree.root).length := by
  rw [after, List.take_length, run]

theorem served_succ {site : Site} {event : HookEvent} {i : Nat}
    (h : (s.hooks.observe scan.unit s.position site)[i]? = some event) :
    scan.served site s (i + 1) = scan.handle (scan.served site s i) event := foldl_take_succ _ _ h

theorem tried_succ {n : NodeId} {rule : RuleId} {i : Nat} (h : scan.roots[i]? = some rule) :
    scan.tried n s (i + 1) = scan.tryRoot n (scan.tried n s i) rule := foldl_take_succ _ _ h

/-- Meeting a node at which there is no site. -/
theorem visit_of_no_site {n : NodeId} (h : scan.unit.site? n = none) : scan.visit s n = meet s := by
  simp only [visit, h]
  rfl

/-- Meeting a site: what is due is handled, and then all root rules are tried. -/
theorem visit_of_site {n : NodeId} {site : Site} (h : scan.unit.site? n = some site) :
    scan.visit s n = scan.tried n (scan.servedAll site (meet s)) scan.roots.length := by
  simp only [visit, h, tried, servedAll, served, List.take_length]
  rfl

/-! ## Due events -/

/-- An event is for a site at which the hook at its place fires. -/
structure Due (scan : Scan) (s : ScanState) (event : HookEvent) : Prop where
  site_eq : scan.unit.site? event.trigger.node = some event.trigger
  fires : ∃ kind, s.hooks.kinds[event.hook]? = some kind ∧
    kind.fires scan.unit event.trigger = true

theorem due_of_mem_observe {site : Site} {event : HookEvent}
    (hsite : scan.unit.site? site.node = some site)
    (h : event ∈ s.hooks.observe scan.unit s.position site) : scan.Due s event := by
  obtain ⟨⟨hook, place⟩, hmem, hevent⟩ := List.mem_flatMap.mp h
  have hplace := List.mem_zipIdx_iff_getElem?.mp hmem
  simp only at hevent
  split at hevent
  · next hfires =>
    obtain ⟨entry, -, rfl⟩ := List.mem_map.mp hevent
    refine ⟨hsite, hook.kind, ?_, (Bool.and_eq_true_iff.mp hfires).2⟩
    rw [HookRepository.kinds, List.getElem?_map, hplace, Option.map_some]
  · cases hevent

theorem getElem?_mono {α : Type} {l l' : List α} (h : l <+: l') {i : Nat} {x : α}
    (hx : l[i]? = some x) : l'[i]? = some x := by
  obtain ⟨more, rfl⟩ := h
  rw [List.getElem?_append_left (List.getElem?_eq_some_iff.mp hx).1, hx]

/-- Events stay due while hooks are only added. -/
theorem Due.mono {event : HookEvent} (h : scan.Due s event)
    (hkinds : s.hooks.kinds <+: s'.hooks.kinds) : scan.Due s' event := by
  obtain ⟨kind, hkind, hfires⟩ := h.fires
  exact ⟨h.site_eq, kind, getElem?_mono hkinds hkind, hfires⟩

/-! ## Induction over the events -/

variable (scan) in
/-- A property that the empty state has and that every event of a scan keeps.  When an event is
handled, hooks stay in their places; so the events that are to come stay due. -/
structure Kept (P : ScanState → Prop) : Prop where
  empty : P {}
  meet : ∀ {s}, scan.Advances s (meet s) → P s → P (meet s)
  serve : ∀ {s event}, scan.Advances s (scan.handle s event) → scan.Due s event → P s →
    P (scan.handle s event) ∧ s.hooks.kinds <+: (scan.handle s event).hooks.kinds
  attempt : ∀ {s n site rule}, scan.Advances s (scan.tryRoot n s rule) →
    scan.unit.site? n = some site → P s → P (scan.tryRoot n s rule)

namespace Kept

variable {P : ScanState → Prop} {count i : Nat} {n : NodeId} {site : Site}

/-- A kept property holds while the events at a site are handled. -/
theorem served (h : scan.Kept P)
    (hnode : (scan.unit.tree.preorder SyntaxTree.root)[count]? = some n)
    (hsite : scan.unit.site? n = some site) (hmet : P (Scan.meet (scan.after count)))
    (hi : i ≤ ((Scan.meet (scan.after count)).hooks.observe scan.unit
      (Scan.meet (scan.after count)).position site).length) :
    P (scan.served site (Scan.meet (scan.after count)) i) ∧
      (Scan.meet (scan.after count)).hooks.kinds <+:
        (scan.served site (Scan.meet (scan.after count)) i).hooks.kinds := by
  induction i with
  | zero => exact ⟨hmet, List.prefix_rfl⟩
  | succ i ih =>
    obtain ⟨hp, hkinds⟩ := ih (by omega)
    have hevent := List.getElem?_eq_getElem hi
    have hsite' : scan.unit.site? site.node = some site := by
      rw [CompilationUnit.node_of_site? hsite, hsite]
    have hdue := due_of_mem_observe hsite' (List.getElem_mem hi)
    rw [served_succ hevent]
    obtain ⟨hp', hkinds'⟩ := h.serve (.serves hnode hsite hevent) (hdue.mono hkinds) hp
    exact ⟨hp', hkinds.trans hkinds'⟩

/-- A kept property holds while the root rules are tried. -/
theorem tried (h : scan.Kept P)
    (hnode : (scan.unit.tree.preorder SyntaxTree.root)[count]? = some n)
    (hsite : scan.unit.site? n = some site)
    (hserved : P (scan.servedAll site (Scan.meet (scan.after count))))
    (hi : i ≤ scan.roots.length) :
    P (scan.tried n (scan.servedAll site (Scan.meet (scan.after count))) i) := by
  induction i with
  | zero => exact hserved
  | succ i ih =>
    have hrule := List.getElem?_eq_getElem hi
    rw [tried_succ hrule]
    exact h.attempt (.tries hnode hsite hrule) hsite (ih (by omega))

/-- **A kept property holds after any number of nodes.** -/
theorem after (h : scan.Kept P) (count : Nat) : P (scan.after count) := by
  induction count with
  | zero => exact h.empty
  | succ count ih =>
    cases hnode : (scan.unit.tree.preorder SyntaxTree.root)[count]? with
    | none =>
      rw [after_of_length_le (List.getElem?_eq_none_iff.mp hnode)]
      exact ih
    | some n =>
      have hmet := h.meet (.meets count) ih
      rw [after_succ hnode]
      cases hsite : scan.unit.site? n with
      | none => rwa [visit_of_no_site hsite]
      | some site =>
        rw [visit_of_site hsite]
        exact h.tried hnode hsite (h.served hnode hsite hmet (Nat.le_refl _)).1 (Nat.le_refl _)

end Kept

/-! ## Single events -/

/-- Everything that an event of a scan can be, with a kept property of the states before and after
it. -/
theorem Advances.cases_of_kept {P : ScanState → Prop} (h : scan.Advances s s') (hP : scan.Kept P) :
    P s ∧ P s' ∧ (s' = Scan.meet s ∨ (∃ event, scan.Due s event ∧ s' = scan.handle s event) ∨
      ∃ n rule, s' = scan.tryRoot n s rule) := by
  have hadvances := h
  cases h with
  | meets count => exact ⟨hP.after count, hP.meet hadvances (hP.after count), .inl rfl⟩
  | @serves count n site event i node_eq site_eq event_eq =>
    have hmet := hP.meet (.meets count) (hP.after count)
    obtain ⟨hlt, heq⟩ := List.getElem?_eq_some_iff.mp event_eq
    obtain ⟨hp, hkinds⟩ := hP.served node_eq site_eq hmet (Nat.le_of_lt hlt)
    have hsite : scan.unit.site? site.node = some site := by
      rw [CompilationUnit.node_of_site? site_eq, site_eq]
    have hdue := (due_of_mem_observe hsite (heq ▸ List.getElem_mem hlt)).mono hkinds
    exact ⟨hp, (hP.serve hadvances hdue hp).1, .inr (.inl ⟨event, hdue, rfl⟩)⟩
  | @tries count n site rule i node_eq site_eq rule_eq =>
    have hmet := hP.meet (.meets count) (hP.after count)
    have hserved := (hP.served node_eq site_eq hmet (Nat.le_refl _)).1
    obtain ⟨hlt, -⟩ := List.getElem?_eq_some_iff.mp rule_eq
    have hp := hP.tried node_eq site_eq hserved (Nat.le_of_lt hlt)
    exact ⟨hp, hP.attempt hadvances site_eq hp, .inr (.inr ⟨n, rule, rfl⟩)⟩

/-! ## The way to the end -/

/-- Any number of events. -/
abbrev Proceeds (scan : Scan) : ScanState → ScanState → Prop := Relation.ReflTransGen scan.Advances

section Proceeding

variable {count i j : Nat} {n : NodeId} {site : Site}

theorem served_proceeds (hnode : (scan.unit.tree.preorder SyntaxTree.root)[count]? = some n)
    (hsite : scan.unit.site? n = some site) (hij : i ≤ j)
    (hj : j ≤ ((meet (scan.after count)).hooks.observe scan.unit
      (meet (scan.after count)).position site).length) :
    scan.Proceeds (scan.served site (meet (scan.after count)) i)
      (scan.served site (meet (scan.after count)) j) := by
  induction hij with
  | refl => exact .refl
  | step _ ih =>
    have hevent := List.getElem?_eq_getElem hj
    rw [served_succ hevent]
    exact (ih (Nat.le_of_succ_le hj)).tail (.serves hnode hsite hevent)

theorem tried_proceeds (hnode : (scan.unit.tree.preorder SyntaxTree.root)[count]? = some n)
    (hsite : scan.unit.site? n = some site) (hij : i ≤ j) (hj : j ≤ scan.roots.length) :
    scan.Proceeds (scan.tried n (scan.servedAll site (meet (scan.after count))) i)
      (scan.tried n (scan.servedAll site (meet (scan.after count))) j) := by
  induction hij with
  | refl => exact .refl
  | step _ ih =>
    have hrule := List.getElem?_eq_getElem hj
    rw [tried_succ hrule]
    exact (ih (Nat.le_of_succ_le hj)).tail (.tries hnode hsite hrule)

/-- While the root rules are tried, the scan goes on to the next node. -/
theorem tried_proceeds_after (hnode : (scan.unit.tree.preorder SyntaxTree.root)[count]? = some n)
    (hsite : scan.unit.site? n = some site) (hi : i ≤ scan.roots.length) :
    scan.Proceeds (scan.tried n (scan.servedAll site (meet (scan.after count))) i)
      (scan.after (count + 1)) := by
  rw [after_succ hnode, visit_of_site hsite]
  exact tried_proceeds hnode hsite hi (Nat.le_refl _)

/-- While observers are served, the scan goes on to the next node. -/
theorem served_proceeds_after (hnode : (scan.unit.tree.preorder SyntaxTree.root)[count]? = some n)
    (hsite : scan.unit.site? n = some site)
    (hi : i ≤ ((meet (scan.after count)).hooks.observe scan.unit
      (meet (scan.after count)).position site).length) :
    scan.Proceeds (scan.served site (meet (scan.after count)) i) (scan.after (count + 1)) :=
  (served_proceeds hnode hsite hi (Nat.le_refl _)).trans
    (tried_proceeds_after hnode hsite (Nat.zero_le _))

theorem after_proceeds_succ (count : Nat) :
    scan.Proceeds (scan.after count) (scan.after (count + 1)) := by
  cases hnode : (scan.unit.tree.preorder SyntaxTree.root)[count]? with
  | none =>
    rw [after_of_length_le (List.getElem?_eq_none_iff.mp hnode)]
  | some n =>
    cases hsite : scan.unit.site? n with
    | none =>
      rw [after_succ hnode, visit_of_no_site hsite]
      exact .single (.meets count)
    | some site =>
      exact .head (.meets count) (served_proceeds_after hnode hsite (Nat.zero_le _))

/-- From every node the scan goes on to its end. -/
theorem after_proceeds_run (count : Nat) : scan.Proceeds (scan.after count) scan.run := by
  rw [run_eq_after]
  rcases Nat.le_total count (scan.unit.tree.preorder SyntaxTree.root).length with hle | hge
  · generalize (scan.unit.tree.preorder SyntaxTree.root).length = last at hle ⊢
    induction hle with
    | refl => exact .refl
    | step _ ih => exact ih.trans (after_proceeds_succ _)
  · rw [after, after, List.take_of_length_le hge, List.take_length]

/-- After an event that emits a root, the scan goes on to its end. -/
theorem Advances.proceeds_run (h : scan.Advances s s') (hemits : s'.emitted ≠ s.emitted) :
    scan.Proceeds s' scan.run := by
  cases h with
  | meets count => exact absurd rfl hemits
  | serves node_eq site_eq event_eq =>
    obtain ⟨hlt, -⟩ := List.getElem?_eq_some_iff.mp event_eq
    rw [← served_succ event_eq]
    exact (served_proceeds_after node_eq site_eq hlt).trans (after_proceeds_run _)
  | tries node_eq site_eq rule_eq =>
    obtain ⟨hlt, -⟩ := List.getElem?_eq_some_iff.mp rule_eq
    rw [← tried_succ rule_eq]
    exact (tried_proceeds_after node_eq site_eq hlt).trans (after_proceeds_run _)

end Proceeding

end Scan
end CryptoUsage
