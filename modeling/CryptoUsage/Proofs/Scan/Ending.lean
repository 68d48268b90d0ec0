import CryptoUsage.Proofs.Scan.Confinement
import CryptoUsage.Proofs.Scan.Depth

/-!
# Following rules ends

A rule that is followed is less deep than the rule that it is followed from.  So an evaluation
that may go on for more steps than its rule is deep never comes to the last of them, and it makes
no difference what would be done there (`evaluateBeyond_eq`): the number of steps is no limit, and
evaluation is what it would be without one (`evaluateBy_evaluate`).

Together with the bounds on levels this says that nesting is bounded and never circular
(`nesting_is_bounded`).

## How it goes

Two evaluations are compared that are used for what is followed, and that agree on stores whose
rules are less deep than some number (`AgreeBelow`).

* If a store is for a rule, the rules followed from it are among its references, and so less
  deep.  The theorems go up the definitions, as elsewhere: evaluating in a scope or at a node,
  following next and depending rules, reading arguments (`pursue_agree`).  In between, the store
  has to stay one for its rule (`IsFor`), which is so since an evaluation writes to its own store
  and adds others.
* Evaluations that agree below a depth give evaluations that agree one level further up
  (`evaluateBy_agree`).
* `evaluateBeyond` goes on in any way at all when its steps are used up.  By induction on the
  steps it agrees with the real evaluation below their number (`evaluateBeyond_agree`).

The program at the end shows that the bounds are reached: a moved value stands one level below a
store that is as deep as its rules allow.
-/

set_option autoImplicit false

namespace CryptoUsage
namespace Scan

variable {scan : Scan} {s s' : ScanState} {id : StoreId} {ruleId : RuleId} {depth : Nat}
  {evaluate evaluate' : Evaluator}

/-! ## Stores that keep their rules -/

/-- A live store is for a rule, in an arena whose links agree. -/
structure IsFor (s : ScanState) (id : StoreId) (ruleId : RuleId) : Prop where
  linked : s.stores.Linked
  store_eq : ∃ store, s.stores.store? id = some store ∧ store.rule = ruleId

theorem IsFor.fits (h : IsFor s id ruleId) : Remit.everything.Fits s.stores :=
  Remit.fits_everything h.linked

theorem IsFor.owns (h : IsFor s id ruleId) : Remit.everything.Owns s.stores id := by
  obtain ⟨store, hid, -⟩ := h.store_eq
  exact ⟨Nat.zero_le _, store, hid, fun _ => .inr trivial⟩

theorem IsFor.isOpen (h : IsFor s id ruleId) : Remit.everything.IsOpen s.stores id :=
  h.owns.isOpen

theorem IsFor.confines (h : IsFor s id ruleId) (hconfines : Remit.everything.Confines s s') :
    IsFor s' id ruleId := by
  obtain ⟨store, hid, hrule⟩ := h.store_eq
  obtain ⟨store', hid', hrespects⟩ := hconfines.spares.stores hid
  exact ⟨hconfines.spares.linked h.linked, store', hid', hrespects.rule.trans hrule⟩

/-- Two ways to go through a list that do the same with every item do the same with the list. -/
theorem IsFor.foldl_eq {α : Type} {f g : ScanState → α → ScanState} {l : List α}
    (h : IsFor s id ruleId)
    (hstep : ∀ s', IsFor s' id ruleId → ∀ a ∈ l, f s' a = g s' a ∧
      Remit.everything.Confines s' (g s' a)) : l.foldl f s = l.foldl g s := by
  induction l generalizing s with
  | nil => rfl
  | cons a l ih =>
    obtain ⟨heq, hconfines⟩ := hstep s h a List.mem_cons_self
    rw [List.foldl_cons, List.foldl_cons, heq]
    exact ih (h.confines hconfines) fun s' h' b hb => hstep s' h' b (List.mem_cons_of_mem a hb)

/-! ## Evaluations that agree -/

variable (scan) in
/-- Two evaluations agree on stores whose rules are less deep. -/
def AgreeBelow (depth : Nat) (evaluate evaluate' : Evaluator) : Prop :=
  ∀ ⦃s id ruleId trace site⦄, IsFor s id ruleId → scan.catalog.depth ruleId < depth →
    evaluate s id trace site = evaluate' s id trace site

theorem evaluateIn_agree (ha : scan.AgreeBelow depth evaluate evaluate')
    (hk : KeepsRemits evaluate') (h : IsFor s id ruleId)
    (hdepth : scan.catalog.depth ruleId < depth) (trace : Trace) (scope : NodeId) :
    scan.evaluateIn evaluate trace scope s id = scan.evaluateIn evaluate' trace scope s id :=
  (h.confines (Remit.confines_start s)).foldl_eq fun _ h' _ _ =>
    ⟨ha h' hdepth, hk h'.fits h'.owns⟩

theorem evaluateAt_agree (ha : scan.AgreeBelow depth evaluate evaluate') (h : IsFor s id ruleId)
    (hdepth : scan.catalog.depth ruleId < depth) (trace : Trace) (n : NodeId) :
    scan.evaluateAt evaluate trace n s id = scan.evaluateAt evaluate' trace n s id := by
  rw [evaluateAt, evaluateAt]
  split
  · exact ha (h.confines (Remit.confines_start s)) hdepth
  · rfl

theorem follow_foldl_agree {run run' : ScanState → StoreId → ScanState} {parent : StoreId}
    {rules : List RuleId} (h : IsFor s parent ruleId)
    (hrun : ∀ {s id child}, child ∈ rules → IsFor s id child → run s id = run' s id)
    (hk : ∀ {s id}, Remit.everything.Fits s.stores → Remit.everything.Owns s.stores id →
      Remit.everything.Confines s (run' s id)) (index : Int) (hook : Option HookOrigin) :
    rules.foldl (follow run parent index hook) s =
      rules.foldl (follow run' parent index hook) s := by
  refine h.foldl_eq fun s' h' child hchild => ⟨?_, follow_confines hk h'.fits h'.isOpen ..⟩
  obtain ⟨above, habove, -⟩ := h'.store_eq
  have hnew := Arena.store?_createChild_new habove index child hook
  exact hrun hchild ⟨h'.linked.createChild habove .., _, hnew, rfl⟩

section Rules

variable {rule : Rule} {site : Site}

theorem followNext_agree (ha : scan.AgreeBelow depth evaluate evaluate')
    (hk : KeepsRemits evaluate') (h : IsFor s id ruleId)
    (hdepth : ∀ child ∈ rule.references, scan.catalog.depth child < depth) :
    scan.followNext evaluate id rule site s = scan.followNext evaluate' id rule site s := by
  rw [followNext, followNext]
  split
  · rfl
  · exact follow_foldl_agree h (fun hchild h' =>
      evaluateIn_agree ha hk h' (hdepth _ (Rule.mem_references_iff.mpr (.inl hchild))) ..)
      (evaluateIn_confines hk _ _) ..

theorem followDepending_agree (ha : scan.AgreeBelow depth evaluate evaluate')
    (hk : KeepsRemits evaluate') (h : IsFor s id ruleId) {rules : List RuleId}
    (hdepth : ∀ child ∈ rules, scan.catalog.depth child < depth) (index : Int)
    (origin : Option HookOrigin) (chain : Nat) (argument : NodeId) :
    scan.followDepending evaluate id index rules origin chain s argument =
      scan.followDepending evaluate' id index rules origin chain s argument := by
  simp only [followDepending]
  split
  · exact follow_foldl_agree h (fun hchild h' => evaluateAt_agree ha h' (hdepth _ hchild) ..)
      (evaluateAt_confines hk _ _) ..
  · split
    · rfl
    · exact follow_foldl_agree h (fun hchild h' => evaluateIn_agree ha hk h' (hdepth _ hchild) ..)
        (evaluateIn_confines hk _ _) ..
  · rfl

theorem readArgument_agree (ha : scan.AgreeBelow depth evaluate evaluate')
    (hk : KeepsRemits evaluate') (h : IsFor s id ruleId)
    (hdepth : ∀ child ∈ rule.references, scan.catalog.depth child < depth) (reader : RuleId)
    {entry : (Parameter × NodeId) × Nat} (hmem : entry.1.1 ∈ rule.parameters) :
    scan.readArgument evaluate id reader s entry =
      scan.readArgument evaluate' id reader s entry := by
  obtain ⟨⟨parameter, argument⟩, position⟩ := entry
  simp only [readArgument]
  split
  · rfl
  · rfl
  · next rules hrole =>
    exact followDepending_agree ha hk h (fun child hchild =>
      hdepth child (Rule.mem_references_iff.mpr (.inr ⟨parameter, hmem, rules, hrole, hchild⟩))) ..

theorem pursue_agree (ha : scan.AgreeBelow depth evaluate evaluate')
    (hk : KeepsRemits evaluate') (h : IsFor s id ruleId)
    (hdepth : ∀ child ∈ rule.references, scan.catalog.depth child < depth) (reader : RuleId) :
    scan.pursue evaluate id reader rule site s = scan.pursue evaluate' id reader rule site s := by
  have hnext : Remit.everything.Confines s (scan.followNext evaluate' id rule site s) :=
    followNext_confines hk h.fits h.isOpen rule site
  simp only [pursue, followNext_agree ha hk h hdepth]
  split
  · rfl
  · refine (h.confines hnext).foldl_eq fun s' h' entry hentry => ⟨?_, ?_⟩
    · have hzip := List.getElem?_zip_eq_some.mp (List.mem_zipIdx_iff_getElem?.mp hentry)
      exact readArgument_agree ha hk h' hdepth reader (List.mem_of_getElem? hzip.1)
    · exact readArgument_confines hk h'.fits h'.isOpen reader (.inr trivial)

end Rules

/-- Evaluations that agree on what is less deep agree one level further up if they are used to
evaluate what is followed. -/
theorem evaluateBy_agree (ha : scan.AgreeBelow depth evaluate evaluate')
    (hk : KeepsRemits evaluate') :
    scan.AgreeBelow (depth + 1) (scan.evaluateBy evaluate) (scan.evaluateBy evaluate') := by
  intro s id ruleId trace site h hdepth
  obtain ⟨store, hid, rfl⟩ := h.store_eq
  rw [evaluateBy, evaluateBy, hid]
  simp only
  cases hrule : scan.catalog.rule? store.rule with
  | none => rfl
  | some rule =>
    simp only
    split
    · obtain ⟨hgrant, htarget⟩ := grant_confines h.fits h.owns rule site
      obtain ⟨target, htarget', -⟩ := htarget.store_eq
      rw [takeSite_eq_pursue, takeSite_eq_pursue]
      refine pursue_agree ha hk ⟨hgrant.spares.linked h.linked, target, htarget', rfl⟩
        (fun child hchild => ?_) store.rule
      have hlt := Catalog.depth_lt_of_mem_references hrule hchild
      omega
    · rfl

/-! ## Without a limit -/

variable (scan) in
/-- Evaluation that goes on in some other way after so many rules were followed in a row. -/
def evaluateBeyond (beyond : Evaluator) : Nat → Evaluator
  | 0 => beyond
  | steps + 1 => scan.evaluateBy (evaluateBeyond beyond steps)

/-- What is less deep than there are steps is evaluated in the same way by all who have as many. -/
theorem evaluateBeyond_agree (scan : Scan) (beyond : Evaluator) (steps more more' : Nat) :
    scan.AgreeBelow steps (scan.evaluateBeyond beyond (steps + more))
      (scan.evaluateWithin (steps + more')) := by
  induction steps with
  | zero => exact fun _ _ _ _ _ _ hdepth => absurd hdepth (Nat.not_lt_zero _)
  | succ steps ih =>
    rw [Nat.succ_add, Nat.succ_add]
    exact evaluateBy_agree ih (evaluateWithin_confines scan _)

theorem evaluateBy_of_no_rule (evaluate : Evaluator) {store : Store}
    (hid : s.stores.store? id = some store) (hrule : scan.catalog.rule? store.rule = none)
    (trace : Trace) (site : Site) : scan.evaluateBy evaluate s id trace site = s := by
  rw [evaluateBy, hid]
  simp only [hrule]

/-- **Following rules ends**: with more steps than the rule of a store is deep, it makes no
difference what would be done after the last one. -/
theorem evaluateBeyond_eq (scan : Scan) (beyond : Evaluator) {steps : Nat} (h : IsFor s id ruleId)
    (hsteps : scan.catalog.depth ruleId < steps) (trace : Trace) (site : Site) :
    scan.evaluateBeyond beyond steps s id trace site = scan.evaluate s id trace site := by
  obtain ⟨more, rfl⟩ := Nat.exists_eq_add_of_le (Nat.succ_le_of_lt hsteps)
  cases hrule : scan.catalog.rule? ruleId with
  | none =>
    obtain ⟨store, hid, rfl⟩ := h.store_eq
    have hnothing : scan.evaluate s id trace site = s := by
      rw [evaluate]
      cases scan.catalog.size with
      | zero => rfl
      | succ size => exact evaluateBy_of_no_rule _ hid hrule trace site
    rw [hnothing, Nat.succ_add]
    exact evaluateBy_of_no_rule _ hid hrule trace site
  | some rule =>
    have hsize := Catalog.depth_lt_size hrule
    obtain ⟨more', hmore'⟩ := Nat.exists_eq_add_of_le (Nat.succ_le_of_lt hsize)
    rw [evaluateBeyond_agree scan beyond _ more more' h (Nat.lt_succ_self _), ← hmore', evaluate]

theorem evaluateBeyond_nothing (scan : Scan) (steps : Nat) :
    scan.evaluateBeyond (fun s _ _ _ => s) steps = scan.evaluateWithin steps := by
  induction steps with
  | zero => rfl
  | succ steps ih => rw [evaluateBeyond, evaluateWithin, ih]

/-- Evaluation uses itself for what is followed. -/
theorem evaluateBy_evaluate (scan : Scan) (h : IsFor s id ruleId) (trace : Trace) (site : Site) :
    scan.evaluateBy scan.evaluate s id trace site = scan.evaluate s id trace site := by
  have hdepth := Nat.lt_succ_of_le (Catalog.depth_le_size scan.catalog ruleId)
  calc scan.evaluateBy scan.evaluate s id trace site
      = scan.evaluateWithin (scan.catalog.size + 1) s id trace site := rfl
    _ = scan.evaluateBeyond (fun s _ _ _ => s) (scan.catalog.size + 1) s id trace site := by
        rw [evaluateBeyond_nothing]
    _ = scan.evaluate s id trace site := evaluateBeyond_eq scan _ h hdepth trace site

/-! ## Nesting -/

/-- **Nesting is bounded and never circular.**  In every state of a scan a store is no deeper than
the limit, and less deep if it has a site; on the way up from it no two stores have the same site
for the same rule; its rule is a next rule or a depending rule of the rule above, unless it holds a
value that was moved.  So whatever the limit is, a store is at most one level deeper than the rule
of its root, where the depth of a rule is the length of the longest chain of references from it;
and evaluating a rule comes to an end, within as many rules in a row as that. -/
theorem nesting_is_bounded (scan : Scan) :
    (∀ {s : ScanState} {id : StoreId} {store : Store}, scan.Occurs s →
      s.stores.store? id = some store →
      store.level ≤ scan.config.maxStoreDepth ∧
      (store.site ≠ none → store.level < scan.config.maxStoreDepth) ∧
      s.stores.ClaimsApart (s.stores.ancestry id) ∧
      (∀ {p : StoreId} {i : Int}, store.parent = some (p, i) →
        ∃ above rule, s.stores.store? p = some above ∧
          scan.catalog.rule? above.rule = some rule ∧
          ((store.rule ∈ rule.next ∨ ∃ parameter ∈ rule.parameters, ∃ rules,
              parameter.role = .depending rules ∧ store.rule ∈ rules) ∨
            store.HoldsMoved above.rule rule i)) ∧
      (∃ top, s.stores.store? store.root = some top ∧
        store.level ≤ scan.catalog.depth top.rule + 1) ∧
      (∀ trace site,
        (∀ beyond steps, scan.catalog.depth store.rule < steps →
          scan.evaluateBeyond beyond steps s id trace site = scan.evaluate s id trace site) ∧
        scan.evaluateBy scan.evaluate s id trace site = scan.evaluate s id trace site)) ∧
    ∀ ruleId, IsGreatest {length | ∃ last, scan.catalog.Chain ruleId last length}
      (scan.catalog.depth ruleId) := by
  refine ⟨fun {s id store} hoccurs hid => ?_, Catalog.isGreatest_depth scan.catalog⟩
  obtain ⟨hs, hn⟩ := hoccurs.nested
  have hfor : IsFor s id store.rule := ⟨hs.linked, store, hid, rfl⟩
  obtain ⟨-, top, htop, -⟩ := hs.linked.exists_root hid
  exact ⟨hn.level_le hs hid, fun hsite => hn.shallow hid hsite, hn.claimsApart hs hid,
    fun hpar => hs.follows_or_moved hid hpar, ⟨top, htop, hs.level_le_depth hid htop⟩,
    fun trace site => ⟨fun beyond _ hsteps => evaluateBeyond_eq scan beyond hfor hsteps trace site,
      evaluateBy_evaluate scan hfor trace site⟩⟩

namespace Followed

/-- The nodes of the program. -/
def nodes : Array SyntaxNode := #[
  ⟨none, "module", true, none, ⟨1, 1, 0, 5⟩, "f(1)\n"⟩,
  ⟨some 0, "expression_statement", true, none, ⟨1, 1, 0, 4⟩, "f(1)"⟩,
  ⟨some 1, "call", true, none, ⟨1, 1, 0, 4⟩, "f(1)"⟩,
  ⟨some 2, "identifier", true, some "function", ⟨1, 1, 0, 1⟩, "f"⟩,
  ⟨some 2, "argument_list", true, some "arguments", ⟨1, 2, 1, 4⟩, "(1)"⟩,
  ⟨some 4, "(", false, none, ⟨1, 2, 1, 2⟩, "("⟩,
  ⟨some 4, "integer", true, none, ⟨1, 3, 2, 3⟩, "1"⟩,
  ⟨some 4, ")", false, none, ⟨1, 4, 3, 4⟩, ")"⟩]

/-- The unit with the program. -/
def unit : CompilationUnit where
  language := .python
  filePath := "m.py"
  tree := { nodes, parent_lt := by decide +kernel }

/-- A rule for the calls of `f` with a key of so many bytes, where to move the key, and the rules
that come next. -/
def ruleWith (moveUnder : Option Int) (next : List RuleId) : Rule where
  kind := .full
  matcher := { objectTypes := .any, methodNames := .oneOf ["f"], parameterTypes := .exactly ["*"] }
  parameters := [{ typeName := "*", role := .detectable .keyBytes, moveUnder }]
  next
  action := none
  bundle := "Default"
  exactType := false

/-- The scan for calls of `f`, at which a rule that moves the key comes next. -/
def twice : Scan where
  catalog := { rules := #[ruleWith (some 0) [], ruleWith none [0]], earlier := by decide +kernel }
  roots := [1]
  unit := unit

end Followed

set_option maxRecDepth 100000 in
/-- A call matches a rule and also the rule that comes next, which moves the key: the store of the
key is as deep as the rules allow. -/
theorem moved_value_is_deepest :
    let scan := Followed.twice
    let s := scan.after 8
    ∃ top below moved, s.stores.store? 0 = some top ∧ s.stores.store? 1 = some below ∧
      s.stores.store? 2 = some moved ∧
      top.site = some (.invocation 2) ∧ below.site = some (.invocation 2) ∧
      below.rule ≠ top.rule ∧ below.rule ∈ (Followed.ruleWith none [0]).next ∧
      below.level < scan.config.maxStoreDepth ∧ moved.level ≤ scan.config.maxStoreDepth ∧
      moved.level = scan.catalog.depth top.rule + 1 ∧
      ∀ beyond trace site,
        scan.evaluateBeyond beyond 2 s 0 trace site = scan.evaluate s 0 trace site := by
  obtain ⟨hstates, -⟩ := nesting_is_bounded Followed.twice
  have hoccurs : Followed.twice.Occurs (Followed.twice.after 8) := .before (.meets 8)
  obtain ⟨top, htop, htopSite, htopRule⟩ : ∃ top,
      (Followed.twice.after 8).stores.store? 0 = some top ∧ top.site = some (.invocation 2) ∧
        top.rule = 1 :=
    ⟨((Followed.twice.after 8).stores.store? 0).get (by decide +kernel), by simp,
      by decide +kernel, by decide +kernel⟩
  obtain ⟨below, hbelow, hsite, hparent⟩ : ∃ below,
      (Followed.twice.after 8).stores.store? 1 = some below ∧
        below.site = some (.invocation 2) ∧ below.parent = some (0, methodLevel) :=
    ⟨((Followed.twice.after 8).stores.store? 1).get (by decide +kernel), by simp,
      by decide +kernel, by decide +kernel⟩
  obtain ⟨moved, hmoved, hlevel, hroot⟩ : ∃ moved,
      (Followed.twice.after 8).stores.store? 2 = some moved ∧ moved.level = 2 ∧ moved.root = 0 :=
    ⟨((Followed.twice.after 8).stores.store? 2).get (by decide +kernel), by simp,
      by decide +kernel, by decide +kernel⟩
  have hrule : Followed.twice.catalog.rule? top.rule = some (Followed.ruleWith none [0]) :=
    htopRule ▸ rfl
  have hdepth : Followed.twice.catalog.depth top.rule ≤ 1 :=
    htopRule ▸ Catalog.depth_le Followed.twice.catalog 1
  obtain ⟨-, hshallow, hpairwise, hfollows, -⟩ := hstates hoccurs hbelow
  obtain ⟨hbound, -, -, -, ⟨top', htop', hrules⟩, -⟩ := hstates hoccurs hmoved
  obtain ⟨-, -, -, -, -, hends⟩ := hstates hoccurs htop
  have hancestry : (Followed.twice.after 8).stores.ancestry 1 = [1, 0] := by decide +kernel
  rw [hancestry] at hpairwise
  cases htop.symm.trans (hroot ▸ htop')
  refine ⟨top, below, moved, htop, hbelow, hmoved, htopSite, hsite,
    List.rel_of_pairwise_cons hpairwise List.mem_cons_self hbelow htop hsite htopSite, ?_,
    hshallow (by rw [hsite]; nofun), hbound, by omega,
    fun beyond trace site => (hends trace site).1 beyond 2 (by omega)⟩
  obtain ⟨above, rule, habove, hrule', hlink⟩ := hfollows hparent
  cases htop.symm.trans habove
  cases hrule.symm.trans hrule'
  rcases hlink with (hnext | ⟨parameter, hmem, rules, hrole, -⟩) | hmoved
  · exact hnext
  · cases List.mem_singleton.mp hmem
    cases hrole
  · have hnone := hmoved.site_eq
    rw [hsite] at hnone
    cases hnone

end Scan
end CryptoUsage
