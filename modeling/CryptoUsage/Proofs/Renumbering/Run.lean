import CryptoUsage.Proofs.Renumbering.Evaluation
import CryptoUsage.Proofs.Scan.Exactness

/-!
# Scanning under other numbers

A scan of a program and a scan of it under other numbers have the same outcome, also when the one
program has nodes that the other does not have, as long as they are no sites and the others are met
in the same order (`outcome_eq`).

The two scans are then not at the same position when they meet the same node.  A scan uses
positions for one thing only: a hook that was registered at a site does not fire at that site.  So
it is enough that positions stay in order.  `metBy` gives the position of the scan that meets more
nodes by that of the other, and is strictly monotone, which is what serving the hooks of a site
asks for (`HookRepository.observe_renumber`).

The proof goes up from one root (`emit`, `tryRoot`) and one event (`handle`) to one node
(`visit`), in each case with the equations for evaluation from `Renumbering/Evaluation`.  For the
whole run the state is renumbered but for its position, which lies between those of two nodes
while nodes of the one program are met only (`foldl_visit`).  That a visit moves the position by
one is known of the states that a scan goes through (`Scan.position_after`), so the induction
keeps to those.
-/

set_option autoImplicit false

namespace CryptoUsage

open Function

/-- How many of the nodes are met when `count` of those that are kept are. -/
def metBy (kept : NodeId → Bool) : List NodeId → Nat → Nat
  | [], count => count
  | _ :: _, 0 => 0
  | n :: nodes, count + 1 =>
    (if kept n then metBy kept nodes count else metBy kept nodes (count + 1)) + 1

@[simp] theorem metBy_zero (kept : NodeId → Bool) (nodes : List NodeId) :
    metBy kept nodes 0 = 0 := by cases nodes <;> rfl

theorem metBy_strictMono (kept : NodeId → Bool) (nodes : List NodeId) :
    StrictMono (metBy kept nodes) := by
  refine strictMono_nat_of_lt_succ fun count => ?_
  induction nodes generalizing count with
  | nil => exact Nat.lt_succ_self count
  | cons n nodes ih =>
    cases count with
    | zero => exact Nat.succ_pos _
    | succ count =>
      rw [metBy, metBy]
      split
      · exact Nat.succ_lt_succ (ih count)
      · exact Nat.succ_lt_succ (ih (count + 1))

namespace CompilationUnit.Renumbers

variable {ρ : NodeId → NodeId} {π : Nat → Nat} {u u' : CompilationUnit} (h : u'.Renumbers ρ u)
  (scanner : Scanner)
include h

/-! ## Roots -/

theorem findingOf (π : Nat → Nat) (s : ScanState) (root : StoreId) :
    (scanner.on u).findingOf (s.renumber ρ π) root = (scanner.on u').findingOf s root := by
  simp only [Scan.findingOf, Finding.ofStore, ScanState.stores_renumber, Arena.store?_renumber,
    Arena.project_renumber, h.filePath]
  cases s.stores.store? root with
  | none => rfl
  | some store => cases hsite : store.site <;> simp [Store.renumber, hsite, h.location]

theorem emit (s : ScanState) (root : StoreId) :
    (scanner.on u).emit (s.renumber ρ π) root = ((scanner.on u').emit s root).renumber ρ π := by
  rw [Scan.emit, Scan.emit, ScanState.emitted_renumber, ScanState.reported_renumber,
    h.findingOf scanner π]
  split <;> rfl

theorem emitIfDetected (s : ScanState) (root : StoreId) :
    (scanner.on u).emitIfDetected (s.renumber ρ π) root =
      ((scanner.on u').emitIfDetected s root).renumber ρ π := by
  rw [Scan.emitIfDetected, Scan.emitIfDetected, ScanState.stores_renumber,
    Arena.hasDetections_renumber, h.emit scanner]
  split <;> rfl

theorem outcomeOf (π : Nat → Nat) (s : ScanState) :
    (scanner.on u).outcomeOf (s.renumber ρ π) = (scanner.on u').outcomeOf s := by
  simp only [Scan.outcomeOf, ScanState.emitted_renumber, ScanState.stores_renumber,
    ScanState.hooks_renumber, Arena.size_renumber, HookRepository.pending_renumber, h.filePath,
    funext (h.findingOf scanner π s)]

theorem tryRoot (n : NodeId) (s : ScanState) (rule : RuleId) :
    (scanner.on u).tryRoot (ρ n) (s.renumber ρ π) rule =
      ((scanner.on u').tryRoot n s rule).renumber ρ π := by
  have hstart : Trace.start.renumber ρ = .start := rfl
  have hevaluate := h.evaluateAt scanner (h.evaluate scanner (π := π)) .start n
    (s.withStores (s.stores.createRoot rule).1).plan (s.stores.createRoot rule).2
  rw [hstart] at hevaluate
  simp only [Scan.tryRoot, ScanState.stores_renumber, Arena.createRoot_renumber,
    ScanState.withStores_renumber, ScanState.plan_renumber, Arena.size_renumber, hevaluate,
    ScanState.stores_renumber, ScanState.hooks_renumber, Arena.hasDetections_renumber,
    HookRepository.hasPendingForRoot_renumber, Arena.truncate_renumber, h.emit scanner]
  split
  · rfl
  · split <;> rfl

/-! ## Events -/

theorem handle (s : ScanState) (event : HookEvent) :
    (scanner.on u).handle (s.renumber ρ π) (event.renumber ρ) =
      ((scanner.on u').handle s event).renumber ρ π := by
  have hhook : (event.renumber ρ).hook = event.hook := rfl
  have hnumber : (event.renumber ρ).observer = event.observer := rfl
  have htrigger : (event.renumber ρ).trigger = event.trigger.renumber ρ := rfl
  rw [Scan.handle, Scan.handle, hhook, hnumber, htrigger, ScanState.hooks_renumber,
    HookRepository.hook?_renumber, HookRepository.observer?_renumber]
  cases s.hooks.hook? event.hook with
  | none => rfl
  | some hook =>
    cases s.hooks.observer? event.hook event.observer with
    | none => rfl
    | some observer =>
      have hkind : (hook.renumber ρ π).kind = hook.kind.renumber ρ := rfl
      have hroot : (observer.reposition π).root = observer.root := rfl
      simp only [Option.map_some, hkind, hroot, h.deliver scanner, Prod.map_fst, Prod.map_snd,
        id_eq, HookKind.isOneShot_renumber, ScanState.hooks_renumber,
        HookRepository.removeObserver_renumber]
      rw [← h.emitIfDetected scanner]
      split <;> rfl

/-! ## Nodes -/

/-- The same is done at a node in a state that is renumbered but for the position, if the position
that comes next is. -/
theorem visit (hπ : StrictMono π) (n : NodeId) {s t : ScanState}
    (hs : Scan.meet s = (Scan.meet t).renumber ρ π) :
    (scanner.on u).visit s (ρ n) = ((scanner.on u').visit t n).renumber ρ π := by
  have hsite := h.site? n
  cases hsite' : u'.site? n with
  | none =>
    rw [hsite', Option.map_none] at hsite
    have hvisit : (scanner.on u).visit s (ρ n) = Scan.meet s := Scan.visit_of_no_site hsite
    have hvisit' : (scanner.on u').visit t n = Scan.meet t := Scan.visit_of_no_site hsite'
    rw [hvisit, hvisit', hs]
  | some site =>
    rw [hsite', Option.map_some] at hsite
    have hevents := HookRepository.observe_renumber (Scan.meet t).hooks h hπ
      (Scan.meet t).position site
    have hvisit : (scanner.on u).visit s (ρ n) = (scanner.on u).tried (ρ n)
        ((scanner.on u).servedAll (site.renumber ρ) (Scan.meet s)) scanner.roots.length :=
      Scan.visit_of_site hsite
    have hvisit' : (scanner.on u').visit t n = (scanner.on u').tried n
        ((scanner.on u').servedAll site (Scan.meet t)) scanner.roots.length :=
      Scan.visit_of_site hsite'
    rw [hvisit, hvisit', hs]
    simp only [Scan.tried, Scan.servedAll, Scan.served, List.take_length,
      ScanState.hooks_renumber, ScanState.position_renumber]
    rw [hevents, foldl_renumber (h.handle scanner)]
    exact List.foldl_hom (ScanState.renumber ρ π) fun s rule => h.tryRoot scanner n s rule

/-- A run over more nodes than another, which are no sites, is the other one under other numbers. -/
theorem foldl_visit {kept : NodeId → Bool} (hsites : ∀ n, kept n = false → u.site? n = none)
    (hπ : StrictMono π) (count met : Nat) (nodes : List NodeId)
    (hnodes : nodes.filter kept = ((u'.tree.preorder SyntaxTree.root).drop count).map ρ)
    (hmet : ∀ more, π (count + (more + 1)) = met + metBy kept nodes (more + 1)) :
    nodes.foldl (scanner.on u).visit
        { ((scanner.on u').after count).renumber ρ π with position := met } =
      { (scanner.on u').run.renumber ρ π with position := met + nodes.length } := by
  induction nodes generalizing count met with
  | nil =>
    have hdone : (u'.tree.preorder SyntaxTree.root).length ≤ count := by simpa using hnodes
    have hrun : (scanner.on u').after count = (scanner.on u').run := by
      rw [Scan.after, List.take_of_length_le hdone, Scan.run]
    rw [List.foldl_nil, hrun]
    rfl
  | cons n nodes ih =>
    rw [List.foldl_cons, List.length_cons, Nat.add_comm nodes.length, ← Nat.add_assoc]
    cases hkept : kept n with
    | false =>
      have hvisit (s : ScanState) : (scanner.on u).visit s n = Scan.meet s :=
        Scan.visit_of_no_site (hsites n hkept)
      rw [hvisit]
      refine ih count (met + 1) (by simpa [hkept] using hnodes) fun more => ?_
      rw [hmet, metBy, hkept]
      simp only [Bool.false_eq_true, if_false]
      omega
    | true =>
      have hlt : count < (u'.tree.preorder SyntaxTree.root).length := by
        by_contra hge
        simp [hkept, List.drop_eq_nil_of_le (Nat.le_of_not_lt hge)] at hnodes
      rw [List.filter_cons_of_pos hkept, List.drop_eq_getElem_cons hlt, List.map_cons,
        List.cons.injEq] at hnodes
      obtain ⟨rfl, hrest⟩ := hnodes
      have hnext : (scanner.on u').after (count + 1) = (scanner.on u').visit _ _ :=
        Scan.after_succ (List.getElem?_eq_getElem hlt)
      have hnow : ((scanner.on u').after count).position = count :=
        Scan.position_after (Nat.le_of_lt hlt)
      have hposition : ((scanner.on u').after (count + 1)).position = count + 1 :=
        Scan.position_after hlt
      have hmoved : π (count + 1) = met + 1 := by simpa [metBy, hkept] using hmet 0
      have hmeet : Scan.meet { ((scanner.on u').after count).renumber ρ π with position := met } =
          (Scan.meet ((scanner.on u').after count)).renumber ρ π := by
        simp only [Scan.meet, ScanState.renumber, hnow, hmoved]
      have hplace : ((scanner.on u').after (count + 1)).renumber ρ π =
          { ((scanner.on u').after (count + 1)).renumber ρ π with position := met + 1 } := by
        simp only [ScanState.renumber, hposition, hmoved]
      rw [h.visit scanner hπ _ hmeet, ← hnext, hplace]
      refine ih (count + 1) (met + 1) hrest fun more => ?_
      rw [Nat.add_assoc, Nat.add_comm 1, hmet, metBy, if_pos hkept]
      omega

variable {kept : NodeId → Bool} (hsites : ∀ n, kept n = false → u.site? n = none)
  (hnodes : (u.tree.preorder SyntaxTree.root).filter kept =
    (u'.tree.preorder SyntaxTree.root).map ρ)
include hsites hnodes

/-- **A scan does not depend on the numbers of the nodes**, nor on nodes that are no sites. -/
theorem run_eq :
    (scanner.on u).run =
      { (scanner.on u').run.renumber ρ (metBy kept (u.tree.preorder SyntaxTree.root)) with
        position := (u.tree.preorder SyntaxTree.root).length } := by
  have hrun := h.foldl_visit scanner hsites (metBy_strictMono kept _) 0 0
    (u.tree.preorder SyntaxTree.root) hnodes fun more => by rw [Nat.zero_add, Nat.zero_add]
  have hstart : { ((scanner.on u').after 0).renumber ρ
      (metBy kept (u.tree.preorder SyntaxTree.root)) with position := 0 } = ({} : ScanState) := by
    rw [Scan.after, List.take_zero]
    simp [ScanState.renumber, Arena.renumber, HookRepository.renumber]
  rw [Nat.zero_add, hstart] at hrun
  exact hrun

theorem reported_eq : (scanner.on u).run.reported = (scanner.on u').run.reported := by
  rw [h.run_eq scanner hsites hnodes]
  rfl

/-- **What a scan finds is the same under other numbers**: the findings, the number of the observers
that still wait, and the number of the stores. -/
theorem outcome_eq : (scanner.on u).outcome = (scanner.on u').outcome := by
  rw [Scan.outcome, Scan.outcome, h.run_eq scanner hsites hnodes]
  exact h.outcomeOf scanner _ _

end CompilationUnit.Renumbers
end CryptoUsage
