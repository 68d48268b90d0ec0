import CryptoUsage.Proofs.Scan.Acts
import CryptoUsage.Proofs.Scan.Marking

/-!
# A root that comes to nothing

`Handler` is everything that a scan at work holds: its state, the queue of events, and the marks
of its searches.  The states that a handler can reach are those that follow from the start by
meeting nodes, handling the first event of the queue, and trying root rules between two nodes,
whichever nodes and rules these are (`Reachable`); those of the scan of a unit are among them
(`reachable_after`).

Trying a root rule may make any number of stores before it turns out that nothing was detected and
nothing waits.  Then the new stores are thrown away, and that brings back everything as it was,
apart from what was told of the progress.

## How it goes

* Without marks.  A handler evaluates with marks.  As every evaluation leaves the marks as it
  found them, and there are none at the start, a handler without marks does what the scan does
  (`attempt_eq`, `tryRoot_marked_eq`).
* Reachable handlers.  Each is in order: its state is sound, its queue has due events only, and no
  node is marked (`Reachable.inOrder`, by induction on how it was reached).
* Discarding.  The attempt adds stores behind the old ones and writes to none of these, so cutting
  the arena off at its old size gives the old arena.  A root that nobody waits for has registered
  no observer, so the hooks are the old ones.  The position, what was emitted and what was
  reported are not touched by the work for a root; and the stores that were made are accounted for
  (`attempt_accounts`).
-/

set_option autoImplicit false

namespace CryptoUsage

/-- Everything that a scan at work holds. -/
structure Handler where
  state : ScanState := {}
  queue : List HookEvent := []
  marks : Marks := ∅

namespace Handler

variable (scan : Scan)

/-- The handler after a node is met. -/
def meet (h : Handler) : Handler := { h with state := Scan.meet h.state }

/-- The handler with the events for a site in the queue. -/
def observe (site : Site) (h : Handler) : Handler :=
  { h with queue := h.queue ++ h.state.hooks.observe scan.unit h.state.position site }

/-- The handler after the first event of the queue is taken off and handled. -/
def pop (h : Handler) : Handler :=
  match h.queue with
  | [] => h
  | event :: queue =>
    let (state, marks) := (Marked.handle scan h.state event).run h.marks
    { state, queue, marks }

/-- The handler after the rule of a new root is evaluated at a node. -/
def attempt (n : NodeId) (rule : RuleId) (h : Handler) : Handler :=
  let (state, marks) := (Marked.attempt scan n h.state rule).run h.marks
  { h with state, marks }

/-- The handler after a root rule is tried at a node. -/
def tryRoot (n : NodeId) (rule : RuleId) (h : Handler) : Handler :=
  let (state, marks) := (Marked.tryRoot scan n h.state rule).run h.marks
  { h with state, marks }

end Handler

namespace Scan

variable (scan : Scan)

/-- What a handler can come to.  A node is met and a root rule is tried when no event is left in the
queue. -/
inductive Reachable : Handler → Prop
  | start : Reachable {}
  | skip {h : Handler} (reachable : Reachable h) (queue_eq : h.queue = []) : Reachable h.meet
  | observe {h : Handler} {site : Site} (reachable : Reachable h) (queue_eq : h.queue = [])
      (site_eq : scan.unit.site? site.node = some site) : Reachable (h.meet.observe scan site)
  | pop {h : Handler} (reachable : Reachable h) : Reachable (h.pop scan)
  | tryRoot {h : Handler} {n : NodeId} {site : Site} (reachable : Reachable h)
      (queue_eq : h.queue = []) (site_eq : scan.unit.site? n = some site) (rule : RuleId) :
      Reachable (h.tryRoot scan n rule)

variable {scan}

/-! ## Without marks -/

theorem pop_eq (scan : Scan) (s : ScanState) (event : HookEvent) (queue : List HookEvent) :
    ({ state := s, queue := event :: queue } : Handler).pop scan =
      { state := scan.handle s event, queue } := by
  have hrun : (Marked.handle scan s event).run ∅ = (scan.handle s event, ∅) :=
    Marked.handle_yields scan s event
  simp only [Handler.pop, hrun]

theorem attempt_eq {h : Handler} (hmarks : h.marks = ∅) (n : NodeId) (rule : RuleId) :
    h.attempt scan n rule = { h with state := scan.attempt n h.state rule } := by
  have hrun : (Marked.attempt scan n h.state rule).run h.marks =
      (scan.attempt n h.state rule, h.marks) := hmarks ▸ Marked.attempt_yields scan n h.state rule
  simp only [Handler.attempt, hrun]

theorem tryRoot_marked_eq {h : Handler} (hmarks : h.marks = ∅) (n : NodeId) (rule : RuleId) :
    h.tryRoot scan n rule = { h with state := scan.tryRoot n h.state rule } := by
  have hrun : (Marked.tryRoot scan n h.state rule).run h.marks =
      (scan.tryRoot n h.state rule, h.marks) := hmarks ▸ Marked.tryRoot_yields scan n h.state rule
  simp only [Handler.tryRoot, hrun]

/-! ## Reachable handlers -/

variable (scan) in
/-- What holds of every handler on the way. -/
structure InOrder (h : Handler) : Prop where
  sound : scan.Sound h.state
  due : ∀ event ∈ h.queue, scan.Due h.state event
  marks : h.marks = ∅

theorem InOrder.pop {h : Handler} (ho : scan.InOrder h) : scan.InOrder (h.pop scan) := by
  obtain ⟨s, queue, marks⟩ := h
  obtain rfl : marks = ∅ := ho.marks
  cases queue with
  | nil => exact ho
  | cons event queue =>
    obtain ⟨hsound, hkinds⟩ := ho.sound.handle (ho.due event List.mem_cons_self)
    rw [pop_eq]
    exact ⟨hsound, fun later hlater => (ho.due later (List.mem_cons_of_mem _ hlater)).mono hkinds,
      rfl⟩

/-- **Every reachable handler is in order**: its state is sound, the queue holds due events only,
and no node is marked. -/
theorem Reachable.inOrder {h : Handler} (hr : scan.Reachable h) : scan.InOrder h := by
  induction hr with
  | start => exact ⟨sound_empty, nofun, rfl⟩
  | @skip h _ queue_eq ho =>
    refine ⟨ho.sound.congr rfl rfl (Nat.le_succ _) rfl, fun event hevent => ?_, ho.marks⟩
    have hqueue : event ∈ h.queue := hevent
    rw [queue_eq] at hqueue
    cases hqueue
  | @observe h site _ queue_eq site_eq ho =>
    refine ⟨ho.sound.congr rfl rfl (Nat.le_succ _) rfl, fun event hevent => ?_, ho.marks⟩
    have hqueue : event ∈ h.queue ++ _ := hevent
    rw [queue_eq, List.nil_append] at hqueue
    exact due_of_mem_observe site_eq hqueue
  | pop _ ho => exact ho.pop
  | @tryRoot h n site _ queue_eq _ rule ho =>
    rw [tryRoot_marked_eq ho.marks]
    exact ⟨ho.sound.tryRoot n rule, by simp [queue_eq], ho.marks⟩

/-! ## The scan of a unit -/

theorem Reachable.pops {s : ScanState} {queue : List HookEvent}
    (h : scan.Reachable { state := s, queue }) :
    scan.Reachable { state := queue.foldl scan.handle s } := by
  induction queue generalizing s with
  | nil => exact h
  | cons event queue ih => exact ih (pop_eq scan s event queue ▸ h.pop)

theorem Reachable.tries {s : ScanState} (h : scan.Reachable { state := s }) {n : NodeId}
    {site : Site} (hsite : scan.unit.site? n = some site) (rules : List RuleId) :
    scan.Reachable { state := rules.foldl (scan.tryRoot n) s } := by
  induction rules generalizing s with
  | nil => exact h
  | cons rule rules ih =>
    have htried := h.tryRoot rfl hsite rule
    rw [tryRoot_marked_eq rfl] at htried
    exact ih htried

/-- The states of a scan between two nodes are reachable, with nothing in the queue and no marks. -/
theorem reachable_after (scan : Scan) (count : Nat) :
    scan.Reachable { state := scan.after count } := by
  induction count with
  | zero => exact .start
  | succ count ih =>
    cases hnode : (scan.unit.tree.preorder SyntaxTree.root)[count]? with
    | none =>
      rw [after_of_length_le (List.getElem?_eq_none_iff.mp hnode)]
      exact ih
    | some n =>
      rw [after_succ hnode]
      cases hsite : scan.unit.site? n with
      | none =>
        rw [visit_of_no_site hsite]
        exact ih.skip rfl
      | some site =>
        have hself : scan.unit.site? site.node = some site := by
          rw [CompilationUnit.node_of_site? hsite, hsite]
        have hserved := (ih.observe rfl hself).pops.tries hsite scan.roots
        simp only [visit, hsite]
        exact hserved

/-! ## Discarding -/

theorem attempt_accounts (scan : Scan) (n : NodeId) (s : ScanState) (rule : RuleId) :
    s.Accounts (scan.attempt n s rule) := by
  have hplanted : s.Accounts (plant s rule).start :=
    ScanState.accounts_made (Arena.size_createRoot rule)
  have hacts : scan.Acts 0 (plant s rule).start (scan.attempt n s rule) :=
    evaluateAt_acts (evaluate_acts scan) _ n (Nat.zero_le _) (Nat.zero_le _)
  exact hplanted.trans hacts.accounts

/-- **A root that comes to nothing leaves no trace.**  If nothing was detected for a new root and
nothing waits for it, then after it was tried the stores, the hooks, the queue, what was emitted and
reported, the position and the marks are what they were before.  The progress that was told is that
of the stores that were made and thrown away: as many evaluations were planned as were started. -/
theorem discarded_root_leaves_no_trace {h : Handler} (hreachable : scan.Reachable h) (n : NodeId)
    (rule : RuleId)
    (hnone : (h.attempt scan n rule).state.stores.hasDetections h.state.stores.size = false)
    (hidle : (h.attempt scan n rule).state.hooks.hasPendingForRoot h.state.stores.size = false) :
    ∃ count,
      h.tryRoot scan n rule =
        { h with
          state :=
            { h.state with
              created := h.state.created + count
              progress := (List.replicate count [Progress.started, .planned]).flatten ++
                h.state.progress } } ∧
      (h.tryRoot scan n rule).state.planned = h.state.planned + count ∧
      (h.tryRoot scan n rule).state.started = h.state.started + count := by
  have ho := hreachable.inOrder
  rw [attempt_eq ho.marks] at hnone hidle
  obtain ⟨hsame, hhooks⟩ := tryRoot_of_idle ho.sound.explained
    (Bool.eq_false_iff.mp hnone) (Bool.eq_false_iff.mp hidle)
  have hruns := attempt_runs ho.sound.explained n rule
  obtain ⟨count, hcreated, hprogress⟩ := attempt_accounts scan n h.state rule
  have heq : scan.tryRoot n h.state rule = { h.state with
      created := h.state.created + count
      progress := (List.replicate count [Progress.started, .planned]).flatten ++
        h.state.progress } := by
    have hposition : (scan.attempt n h.state rule).position = h.state.position := hruns.position_eq
    have hemitted : (scan.attempt n h.state rule).emitted = h.state.emitted := hruns.emitted_eq
    have hreported : (scan.attempt n h.state rule).reported = h.state.reported := hruns.reported_eq
    rw [hsame]
    simp only [hcreated, hprogress, hhooks, hposition, hemitted, hreported]
  rw [tryRoot_marked_eq ho.marks, heq]
  refine ⟨count, rfl, ?_, ?_⟩
  · simp [ScanState.planned, List.count_flatten, Nat.add_comm]
  · simp [ScanState.started, List.count_flatten, Nat.add_comm]

/-! ### A call whose argument is unknown

The call of `g` in this program is followed by a call on its result, so trying the rule of `g` makes
two stores; but nothing is known of `y`.

    x = g(y)
    x.h()
-/

namespace Fruitless

/-- The nodes of the program. -/
def nodes : Array SyntaxNode := #[
  ⟨none, "module", true, none, ⟨1, 1, 0, 15⟩, "x = g(y)\nx.h()\n"⟩,
  ⟨some 0, "expression_statement", true, none, ⟨1, 1, 0, 8⟩, "x = g(y)"⟩,
  ⟨some 1, "assignment", true, none, ⟨1, 1, 0, 8⟩, "x = g(y)"⟩,
  ⟨some 2, "identifier", true, some "left", ⟨1, 1, 0, 1⟩, "x"⟩,
  ⟨some 2, "=", false, none, ⟨1, 3, 2, 3⟩, "="⟩,
  ⟨some 2, "call", true, some "right", ⟨1, 5, 4, 8⟩, "g(y)"⟩,
  ⟨some 5, "identifier", true, some "function", ⟨1, 5, 4, 5⟩, "g"⟩,
  ⟨some 5, "argument_list", true, some "arguments", ⟨1, 6, 5, 8⟩, "(y)"⟩,
  ⟨some 7, "(", false, none, ⟨1, 6, 5, 6⟩, "("⟩,
  ⟨some 7, "identifier", true, none, ⟨1, 7, 6, 7⟩, "y"⟩,
  ⟨some 7, ")", false, none, ⟨1, 8, 7, 8⟩, ")"⟩,
  ⟨some 0, "expression_statement", true, none, ⟨2, 1, 9, 14⟩, "x.h()"⟩,
  ⟨some 11, "call", true, none, ⟨2, 1, 9, 14⟩, "x.h()"⟩,
  ⟨some 12, "attribute", true, some "function", ⟨2, 1, 9, 12⟩, "x.h"⟩,
  ⟨some 13, "identifier", true, some "object", ⟨2, 1, 9, 10⟩, "x"⟩,
  ⟨some 13, ".", false, none, ⟨2, 2, 10, 11⟩, "."⟩,
  ⟨some 13, "identifier", true, some "attribute", ⟨2, 3, 11, 12⟩, "h"⟩,
  ⟨some 12, "argument_list", true, some "arguments", ⟨2, 4, 12, 14⟩, "()"⟩,
  ⟨some 17, "(", false, none, ⟨2, 4, 12, 13⟩, "("⟩,
  ⟨some 17, ")", false, none, ⟨2, 5, 13, 14⟩, ")"⟩]

/-- The rule for calls of `h`. -/
def onResult : Rule where
  kind := .methodOnly
  matcher := { objectTypes := .any, methodNames := .oneOf ["h"], parameterTypes := .any }
  parameters := []
  next := []
  action := none
  bundle := "Default"
  exactType := false

/-- The rule for calls of `g`, whose results are followed to calls of `h`. -/
def rule : Rule where
  kind := .full
  matcher := { objectTypes := .any, methodNames := .oneOf ["g"], parameterTypes := .exactly ["*"] }
  parameters := [{ typeName := "*", role := .detectable .keyBytes }]
  next := [0]
  action := none
  bundle := "Default"
  exactType := false

/-- The scan of the program. -/
def work : Scan where
  catalog := { rules := #[onResult, rule], earlier := by decide +kernel }
  roots := [1]
  unit :=
    { language := .python
      filePath := "m.py"
      tree := { nodes, parent_lt := by decide +kernel } }

end Fruitless

/-- Trying the rule at the call of `g` makes two stores and leaves none. -/
theorem fruitless_call_leaves_no_trace :
    (({ state := Fruitless.work.after 1 } : Handler).attempt Fruitless.work 5 1).state.stores.size =
      2 ∧
    ∃ count, (({ state := Fruitless.work.after 1 } : Handler).tryRoot Fruitless.work 5 1) =
        { state :=
            { Fruitless.work.after 1 with
              created := (Fruitless.work.after 1).created + count
              progress := (List.replicate count [Progress.started, .planned]).flatten ++
                (Fruitless.work.after 1).progress } } ∧
      (({ state := Fruitless.work.after 1 } : Handler).tryRoot Fruitless.work 5 1).state.planned =
        (Fruitless.work.after 1).planned + count ∧
      (({ state := Fruitless.work.after 1 } : Handler).tryRoot Fruitless.work 5 1).state.started =
        (Fruitless.work.after 1).started + count :=
  ⟨by decide +kernel, discarded_root_leaves_no_trace (reachable_after Fruitless.work 1) 5 1
    (by decide +kernel) (by decide +kernel)⟩

end Scan
end CryptoUsage
