import CryptoUsage.Proofs.Isolation.Course
import CryptoUsage.Proofs.Scan.Emission

/-!
# Root rules do not influence each other

All root rules of a scan share the stores, the hooks and the observers.  Still, what is found for
one of them is what a scan with that root rule alone finds, tree by tree and value by value, as
long as the hooks that both scans make stand in the same order (`findings_of_rule`).

The order of the hooks does matter: when several hooks fire at one site, values are filed in the
order of the hooks, and a hook stands where the first rule that asked for it put it.
`not_findings_of_rule` is a unit with two rules for which it makes a difference, and in the same
unit `findings_of_shared` has a rule for which it does not.

## How it goes

`HooksInOrder` is about the end of the scan.  Hooks are added at the end and stay in their places
(`kinds_after`), so it holds after every node, for the hooks made so far (`HooksInOrder.after`).
This is what the events at the next node need.  So both scans stay alike from node to node
(`alike_after`); that the scan with one root rule evaluates and handles events as the other one
does is by definition, as neither looks at the root rules (`evaluate_alone`, `handle_alone`).

In the end the findings are snapshots, and these are equal (`Alike.findings_eq`).  Repetitions
among them are dropped over all rules together; since what says the same is of the same rule,
dropping them and picking those of the rule can be done in either order (`Finding.filter_dedup`).
-/

set_option autoImplicit false

namespace CryptoUsage

/-! ## Dropping repetitions among some findings -/

/-- What says the same is kept or left out together; so it does not matter whether repetitions are
dropped before or after. -/
theorem Finding.filter_dedup {p : Finding → Bool}
    (hp : ∀ a b : Finding, a.same b = true → p a = p b) (findings : List Finding) :
    (dedup findings).filter p = dedup (findings.filter p) := by
  induction findings using List.reverseRecOn with
  | nil => rfl
  | append_singleton findings last ih =>
    have hany : p last = true → (findings.filter p).any last.same = findings.any last.same := by
      intro hlast
      rw [List.any_filter]
      refine Arena.any_congr_of_mem ?_
      intro other _
      cases hsame : last.same other with
      | false => rw [Bool.and_false]
      | true => rw [← hp last other hsame, hlast, Bool.and_self]
    rw [dedup_append_singleton, any_dedup, List.filter_append]
    cases hlast : p last with
    | false =>
      rw [List.filter_cons_of_neg (by simp [hlast]), List.filter_nil, List.append_nil, ← ih]
      split
      · rfl
      · rw [List.filter_append, List.filter_cons_of_neg (by simp [hlast]), List.filter_nil,
          List.append_nil]
    | true =>
      rw [List.filter_cons_of_pos hlast, List.filter_nil, dedup_append_singleton, any_dedup,
        hany hlast, ← ih]
      split
      · rfl
      · rw [List.filter_append, List.filter_cons_of_pos hlast, List.filter_nil]

theorem Arena.rule_project {arena : Arena} {id : StoreId} {store : Store}
    (h : arena.store? id = some store) : (arena.project id).rule = store.rule := by
  rw [project]
  cases arena.size <;> simp only [projectWithin, h, Option.getD_some, FindingNode.rule]

namespace Scan

variable {scan : Scan} {rule : RuleId} {f : StoreId → StoreId} {g : ObserverId → ObserverId}
  {s t : ScanState}

/-! ## Hooks stay in their places -/

theorem kinds_tryRoot (hs : scan.Explained s) (n : NodeId) (rule : RuleId) :
    s.hooks.kinds <+: (scan.tryRoot n s rule).hooks.kinds := by
  obtain ⟨s', hruns, heq | ⟨heq, hhooks⟩⟩ := tryRoot_cases hs n rule <;> rw [heq]
  · rw [hooks_emitIfDetected]
    exact hruns.hooks_works.kinds
  · exact hhooks.symm ▸ List.prefix_rfl

theorem kinds_foldl_tryRoot (hs : scan.Sound s) (n : NodeId) (rules : List RuleId) :
    s.hooks.kinds <+: (rules.foldl (scan.tryRoot n) s).hooks.kinds := by
  induction rules generalizing s with
  | nil => exact List.prefix_rfl
  | cons rule rules ih =>
    exact (kinds_tryRoot hs.explained n rule).trans (ih (hs.tryRoot n rule))

theorem kinds_after_succ (scan : Scan) (count : Nat) :
    (scan.after count).hooks.kinds <+: (scan.after (count + 1)).hooks.kinds := by
  cases hnode : (scan.unit.tree.preorder SyntaxTree.root)[count]? with
  | none =>
    have hlen := List.getElem?_eq_none_iff.mp hnode
    exact (after_of_length_le hlen).symm ▸ List.prefix_rfl
  | some n =>
    rw [after_succ hnode]
    cases hsite : scan.unit.site? n with
    | none =>
      rw [visit_of_no_site hsite]
      exact List.prefix_rfl
    | some site =>
      have hmet := (sound_kept scan).meet (.meets count) (sound_after scan count)
      obtain ⟨hserved, hkinds⟩ := (sound_kept scan).served hnode hsite hmet (Nat.le_refl _)
      rw [visit_of_site hsite]
      exact hkinds.trans (kinds_foldl_tryRoot hserved n _)

/-- Hooks are added at the end, and stay. -/
theorem kinds_after (scan : Scan) {i j : Nat} (h : i ≤ j) :
    (scan.after i).hooks.kinds <+: (scan.after j).hooks.kinds := by
  induction h with
  | refl => exact List.prefix_rfl
  | step _ ih => exact ih.trans (kinds_after_succ scan _)

/-! ## A root rule alone -/

variable (scan) in
/-- The scan with only one root rule. -/
def alone (rule : RuleId) : Scan := { scan with roots := [rule] }

theorem evaluateWithin_alone (scan : Scan) (rule : RuleId) (steps : Nat) :
    (scan.alone rule).evaluateWithin steps = scan.evaluateWithin steps := by
  induction steps with
  | zero => rfl
  | succ steps ih =>
    show (scan.alone rule).evaluateBy _ = scan.evaluateBy _
    rw [ih]
    rfl

theorem evaluate_alone (scan : Scan) (rule : RuleId) :
    (scan.alone rule).evaluate = scan.evaluate := evaluateWithin_alone scan rule scan.catalog.size

theorem deliver_alone (scan : Scan) (rule : RuleId) : (scan.alone rule).deliver = scan.deliver := by
  funext kind observer trigger s
  simp only [deliver, deliverRules, evaluate_alone]
  rfl

theorem handle_alone (scan : Scan) (rule : RuleId) : (scan.alone rule).handle = scan.handle := by
  funext s event
  simp only [handle, deliver_alone]
  rfl

theorem tryRoot_alone (scan : Scan) (rule : RuleId) (n : NodeId) :
    (scan.alone rule).tryRoot n = scan.tryRoot n := by
  funext s other
  simp only [tryRoot, evaluate_alone]
  rfl

theorem visit_alone {n : NodeId} {site : Site} (h : scan.unit.site? n = some site) :
    (scan.alone rule).visit t n =
      scan.tryRoot n (((meet t).hooks.observe scan.unit (meet t).position site).foldl scan.handle
        (meet t)) rule := by
  have hsite : (scan.alone rule).unit.site? n = some site := h
  simp only [visit, hsite, handle_alone, tryRoot_alone]
  rfl

/-! ## Meeting a node in both scans -/

theorem alike_empty (scan : Scan) (rule : RuleId) : scan.Alike rule id id {} {} where
  sound := sound_empty
  sound' := sound_empty
  mirrors :=
    { stores :=
        { linked := Arena.linked_empty
          linked' := Arena.linked_empty
          live := fun _ _ _ h => by simp [Arena.store?] at h
          embeds :=
            ⟨fun hi => absurd hi (Nat.not_lt_zero _), fun h => by simp [Arena.store?] at h⟩ }
      hooks :=
        { orderly := HookRepository.orderly_empty
          orderly' := HookRepository.orderly_empty
          within := fun _ _ _ h => by obtain ⟨hook, hmem, -⟩ := h; simp at hmem
          within' := fun _ _ _ h => by obtain ⟨hook, hmem, -⟩ := h; simp at hmem
          kinds := List.Subset.refl _
          number_lt := id
          injective := fun _ _ => id
          waiting := fun _ => rfl
          owner := fun h => by obtain ⟨hook, hmem, -⟩ := h; simp at hmem
          requester := fun h => by obtain ⟨hook, hmem, -⟩ := h; simp at hmem }
      offers := fun _ h => by simp [HookRepository.kinds] at h
      position_eq := rfl }
  emitted := rfl
  roots h := by simp [Arena.store?] at h

theorem Alike.meet (h : scan.Alike rule f g s t) :
    scan.Alike rule f g (Scan.meet s) (Scan.meet t) where
  sound := h.sound.congr rfl rfl (Nat.le_succ _) rfl
  sound' := h.sound'.congr rfl rfl (Nat.le_succ _) rfl
  mirrors := h.mirrors.congr rfl rfl rfl rfl (congrArg (· + 1) h.mirrors.position_eq)
  emitted := h.emitted
  roots := h.roots

theorem Alike.visit (h : scan.Alike rule f g s t) (hmem : rule ∈ scan.roots)
    (hnodup : scan.roots.Nodup) {n : NodeId}
    (horder : ∀ site, scan.unit.site? n = some site →
      (t.hooks.kinds.filter (·.fires scan.unit site)).Pairwise fun kind kind' =>
        s.hooks.kinds.idxOf kind ≤ s.hooks.kinds.idxOf kind') :
    ∃ f' g', scan.Alike rule f' g' (scan.visit s n) ((scan.alone rule).visit t n) := by
  cases hsite : scan.unit.site? n with
  | none =>
    have hsite' : (scan.alone rule).unit.site? n = none := hsite
    rw [visit_of_no_site hsite, visit_of_no_site hsite']
    exact ⟨f, g, h.meet⟩
  | some site =>
    have hself : scan.unit.site? site.node = some site := by
      rw [CompilationUnit.node_of_site? hsite, hsite]
    obtain ⟨f', g', hserved⟩ := h.meet.foldl_handle (h.meet.paired hself (horder site hsite))
    rw [visit_of_site hsite, visit_alone hsite, tried, servedAll, served, List.take_length,
      List.take_length]
    exact hserved.foldl_tryRoot n hmem hnodup

/-! ## Both scans -/

variable (scan) in
/-- At every site, the hooks that a scan with one root rule alone makes and that fire there stand
among the hooks of the scan in the same order. -/
def HooksInOrder (rule : RuleId) : Prop :=
  ∀ site ∈ scan.unit.sitesIn SyntaxTree.root,
    ((scan.alone rule).run.hooks.kinds.filter (·.fires scan.unit site)).Pairwise fun kind kind' =>
      scan.run.hooks.kinds.idxOf kind ≤ scan.run.hooks.kinds.idxOf kind'

instance (rule : RuleId) : Decidable (scan.HooksInOrder rule) :=
  inferInstanceAs (Decidable (∀ site ∈ scan.unit.sitesIn SyntaxTree.root, _))

/-- The hooks made so far are in order if those made in the end are. -/
theorem HooksInOrder.after (horder : scan.HooksInOrder rule) {count : Nat} {n : NodeId}
    {site : Site} (hnode : (scan.unit.tree.preorder SyntaxTree.root)[count]? = some n)
    (hsite : scan.unit.site? n = some site)
    (hkinds : ((scan.alone rule).after count).hooks.kinds ⊆ (scan.after count).hooks.kinds) :
    (((scan.alone rule).after count).hooks.kinds.filter (·.fires scan.unit site)).Pairwise
      fun kind kind' => (scan.after count).hooks.kinds.idxOf kind ≤
        (scan.after count).hooks.kinds.idxOf kind' := by
  have hlt := (List.getElem?_eq_some_iff.mp hnode).1
  have hmem : site ∈ scan.unit.sitesIn SyntaxTree.root :=
    List.mem_filterMap.mpr ⟨n, List.mem_of_getElem? hnode, hsite⟩
  have hlater : ((scan.alone rule).after count).hooks.kinds <+:
      (scan.alone rule).run.hooks.kinds := by
    rw [run_eq_after (scan.alone rule)]
    exact kinds_after (scan.alone rule) (Nat.le_of_lt hlt)
  obtain ⟨more, hmore⟩ : (scan.after count).hooks.kinds <+: scan.run.hooks.kinds := by
    rw [run_eq_after scan]
    exact kinds_after scan (by omega)
  have hpairwise := (horder site hmem).sublist (hlater.sublist.filter _)
  have hplace : ∀ kind ∈ (scan.after count).hooks.kinds,
      scan.run.hooks.kinds.idxOf kind = (scan.after count).hooks.kinds.idxOf kind := by
    intro kind hkind
    rw [← hmore, List.idxOf_append_of_mem hkind]
  refine hpairwise.imp_of_mem fun {kind kind'} hkind hkind' hle => ?_
  rw [← hplace kind (hkinds (List.mem_filter.mp hkind).1),
    ← hplace kind' (hkinds (List.mem_filter.mp hkind').1)]
  exact hle

/-- **Both scans stay alike from node to node.** -/
theorem alike_after (hmem : rule ∈ scan.roots) (hnodup : scan.roots.Nodup)
    (horder : scan.HooksInOrder rule) (count : Nat) :
    ∃ f g, scan.Alike rule f g (scan.after count) ((scan.alone rule).after count) := by
  induction count with
  | zero => exact ⟨id, id, alike_empty scan rule⟩
  | succ count ih =>
    obtain ⟨f, g, halike⟩ := ih
    cases hnode : (scan.unit.tree.preorder SyntaxTree.root)[count]? with
    | none =>
      have hlen := List.getElem?_eq_none_iff.mp hnode
      have hlen' : ((scan.alone rule).unit.tree.preorder SyntaxTree.root).length ≤ count := hlen
      rw [after_of_length_le hlen, after_of_length_le hlen']
      exact ⟨f, g, halike⟩
    | some n =>
      have hnode' : ((scan.alone rule).unit.tree.preorder SyntaxTree.root)[count]? = some n := hnode
      rw [after_succ hnode, after_succ hnode']
      refine halike.visit hmem hnodup ?_
      intro site hsite
      exact horder.after hnode hsite halike.mirrors.hooks.kinds

theorem Alike.findingOf_eq (h : scan.Alike rule f g s t) {id : StoreId}
    (hid : id < t.stores.size) : scan.findingOf s (f id) = scan.findingOf t id := by
  obtain ⟨store, hstore⟩ := Arena.exists_store? hid
  have hproject : s.stores.project (f id) = t.stores.project id :=
    h.mirrors.stores.embeds.project_eq h.mirrors.stores.linked h.mirrors.stores.linked' hstore
  simp only [findingOf, Finding.ofStore, hproject, hstore, h.mirrors.stores.embeds.store_eq hstore]
  rfl

/-- What was emitted for the rule is what was emitted in the scan with that rule alone. -/
theorem Alike.findings_eq (h : scan.Alike rule f g s t) :
    (s.emitted.map (scan.findingOf s)).filter (fun finding => finding.root.rule == rule) =
      t.emitted.map (scan.findingOf t) := by
  have hfilter : s.emitted.filter ((fun finding => finding.root.rule == rule) ∘ scan.findingOf s) =
      s.emitted.filter (isImage f t.stores.size) := by
    refine List.filter_congr ?_
    intro id hid
    obtain ⟨store, hstore, hnone⟩ := h.sound.emitted hid
    rw [Bool.eq_iff_iff, ← h.roots hstore hnone, Function.comp, beq_iff_eq]
    exact Iff.of_eq (congrArg (· = rule) (Arena.rule_project hstore))
  rw [List.filter_map, hfilter, h.emitted, List.map_map]
  exact List.map_congr_left fun id hid => h.findingOf_eq (h.sound'.emitted_lt hid)

/-- **Root rules do not influence each other** as long as they leave the order of hooks alone: if
the hooks that a scan with the rule alone makes, and that fire at one site, stand in the same order
among the hooks of all rules, then the findings for the rule are those of the scan with the rule
alone, in the same order and with the same trees. -/
theorem findings_of_rule (scan : Scan) {rule : RuleId} (hmem : rule ∈ scan.roots)
    (hnodup : scan.roots.Nodup) (horder : scan.HooksInOrder rule) :
    scan.outcome.findings.filter (fun finding => finding.root.rule == rule) =
      (scan.alone rule).outcome.findings := by
  obtain ⟨f, g, halike⟩ := alike_after hmem hnodup horder
    (scan.unit.tree.preorder SyntaxTree.root).length
  have hrun : scan.run = scan.after (scan.unit.tree.preorder SyntaxTree.root).length :=
    run_eq_after scan
  have hrun' : (scan.alone rule).run =
      (scan.alone rule).after (scan.unit.tree.preorder SyntaxTree.root).length :=
    run_eq_after (scan.alone rule)
  rw [← hrun, ← hrun'] at halike
  refine (Finding.filter_dedup (fun a b hsame => ?_) _).trans ?_
  · rw [Finding.same_iff.mp hsame]
  · exact congrArg Finding.dedup halike.findings_eq

/-! ## A shared method

In this program the method `f` hands its parameters to `g` and `h`, and there is a rule for each:

    def f(a, b):
        g(a)
        x = b
        x = a
        h(x)
    f(1, 2)

With both rules the hook for `a` is made first, on behalf of `g`; with the rule for `h` alone it is
made after the one for `b`.
-/

namespace Shared

/-- The nodes of the program. -/
def nodes : Array SyntaxNode := #[
  ⟨none, "module", true, none, ⟨1, 1, 0, 59⟩,
    "def f(a, b):\n    g(a)\n    x = b\n    x = a\n    h(x)\nf(1, 2)\n"⟩,
  ⟨some 0, "function_definition", true, none, ⟨1, 1, 0, 50⟩,
    "def f(a, b):\n    g(a)\n    x = b\n    x = a\n    h(x)"⟩,
  ⟨some 1, "def", false, none, ⟨1, 1, 0, 3⟩, "def"⟩,
  ⟨some 1, "identifier", true, some "name", ⟨1, 5, 4, 5⟩, "f"⟩,
  ⟨some 1, "parameters", true, some "parameters", ⟨1, 6, 5, 11⟩, "(a, b)"⟩,
  ⟨some 4, "(", false, none, ⟨1, 6, 5, 6⟩, "("⟩,
  ⟨some 4, "identifier", true, none, ⟨1, 7, 6, 7⟩, "a"⟩,
  ⟨some 4, ",", false, none, ⟨1, 8, 7, 8⟩, ","⟩,
  ⟨some 4, "identifier", true, none, ⟨1, 10, 9, 10⟩, "b"⟩,
  ⟨some 4, ")", false, none, ⟨1, 11, 10, 11⟩, ")"⟩,
  ⟨some 1, ":", false, none, ⟨1, 12, 11, 12⟩, ":"⟩,
  ⟨some 1, "block", true, some "body", ⟨2, 5, 17, 50⟩, "g(a)\n    x = b\n    x = a\n    h(x)"⟩,
  ⟨some 11, "expression_statement", true, none, ⟨2, 5, 17, 21⟩, "g(a)"⟩,
  ⟨some 12, "call", true, none, ⟨2, 5, 17, 21⟩, "g(a)"⟩,
  ⟨some 13, "identifier", true, some "function", ⟨2, 5, 17, 18⟩, "g"⟩,
  ⟨some 13, "argument_list", true, some "arguments", ⟨2, 6, 18, 21⟩, "(a)"⟩,
  ⟨some 15, "(", false, none, ⟨2, 6, 18, 19⟩, "("⟩,
  ⟨some 15, "identifier", true, none, ⟨2, 7, 19, 20⟩, "a"⟩,
  ⟨some 15, ")", false, none, ⟨2, 8, 20, 21⟩, ")"⟩,
  ⟨some 11, "expression_statement", true, none, ⟨3, 5, 26, 31⟩, "x = b"⟩,
  ⟨some 19, "assignment", true, none, ⟨3, 5, 26, 31⟩, "x = b"⟩,
  ⟨some 20, "identifier", true, some "left", ⟨3, 5, 26, 27⟩, "x"⟩,
  ⟨some 20, "=", false, none, ⟨3, 7, 28, 29⟩, "="⟩,
  ⟨some 20, "identifier", true, some "right", ⟨3, 9, 30, 31⟩, "b"⟩,
  ⟨some 11, "expression_statement", true, none, ⟨4, 5, 36, 41⟩, "x = a"⟩,
  ⟨some 24, "assignment", true, none, ⟨4, 5, 36, 41⟩, "x = a"⟩,
  ⟨some 25, "identifier", true, some "left", ⟨4, 5, 36, 37⟩, "x"⟩,
  ⟨some 25, "=", false, none, ⟨4, 7, 38, 39⟩, "="⟩,
  ⟨some 25, "identifier", true, some "right", ⟨4, 9, 40, 41⟩, "a"⟩,
  ⟨some 11, "expression_statement", true, none, ⟨5, 5, 46, 50⟩, "h(x)"⟩,
  ⟨some 29, "call", true, none, ⟨5, 5, 46, 50⟩, "h(x)"⟩,
  ⟨some 30, "identifier", true, some "function", ⟨5, 5, 46, 47⟩, "h"⟩,
  ⟨some 30, "argument_list", true, some "arguments", ⟨5, 6, 47, 50⟩, "(x)"⟩,
  ⟨some 32, "(", false, none, ⟨5, 6, 47, 48⟩, "("⟩,
  ⟨some 32, "identifier", true, none, ⟨5, 7, 48, 49⟩, "x"⟩,
  ⟨some 32, ")", false, none, ⟨5, 8, 49, 50⟩, ")"⟩,
  ⟨some 0, "expression_statement", true, none, ⟨6, 1, 51, 58⟩, "f(1, 2)"⟩,
  ⟨some 36, "call", true, none, ⟨6, 1, 51, 58⟩, "f(1, 2)"⟩,
  ⟨some 37, "identifier", true, some "function", ⟨6, 1, 51, 52⟩, "f"⟩,
  ⟨some 37, "argument_list", true, some "arguments", ⟨6, 2, 52, 58⟩, "(1, 2)"⟩,
  ⟨some 39, "(", false, none, ⟨6, 2, 52, 53⟩, "("⟩,
  ⟨some 39, "integer", true, none, ⟨6, 3, 53, 54⟩, "1"⟩,
  ⟨some 39, ",", false, none, ⟨6, 4, 54, 55⟩, ","⟩,
  ⟨some 39, "integer", true, none, ⟨6, 6, 56, 57⟩, "2"⟩,
  ⟨some 39, ")", false, none, ⟨6, 7, 57, 58⟩, ")"⟩]

/-- The unit with the program. -/
def unit : CompilationUnit where
  language := .python
  filePath := "m.py"
  tree := { nodes, parent_lt := by decide +kernel }

/-- The rule that the argument of a call of the function is a key of so many bytes. -/
def ruleFor (name : String) : Rule where
  kind := .full
  matcher := { objectTypes := .any, methodNames := .oneOf [name], parameterTypes := .exactly ["*"] }
  parameters := [{ typeName := "*", role := .detectable .keyBytes }]
  next := []
  action := none
  bundle := "Default"
  exactType := false

/-- The scan with the rules for `g` and `h`. -/
def both : Scan where
  catalog := { rules := #[ruleFor "g", ruleFor "h"], earlier := by decide +kernel }
  roots := [0, 1]
  unit := unit

end Shared

set_option maxRecDepth 100000 in
/-- For `h` both scans find the same values in different orders. -/
theorem not_findings_of_rule : ¬ ∀ (scan : Scan) (rule : RuleId), rule ∈ scan.roots →
    scan.roots.Nodup → scan.outcome.findings.filter (fun finding => finding.root.rule == rule) =
      (scan.alone rule).outcome.findings := by
  intro h
  have hvalues := congrArg (List.map Finding.displays) (h Shared.both 1 (by decide) (by decide))
  exact absurd hvalues (by decide +kernel)

set_option maxRecDepth 100000 in
/-- For `g` both scans find the same. -/
theorem findings_of_shared : (0 ∈ Shared.both.roots ∧ Shared.both.roots.Nodup ∧
    Shared.both.HooksInOrder 0) ∧
    Shared.both.outcome.findings.filter (fun finding => finding.root.rule == 0) =
      (Shared.both.alone 0).outcome.findings := by
  have hmem : 0 ∈ Shared.both.roots := by decide
  have hnodup : Shared.both.roots.Nodup := by decide
  have horder : Shared.both.HooksInOrder 0 := by decide +kernel
  exact ⟨⟨hmem, hnodup, horder⟩, findings_of_rule Shared.both hmem hnodup horder⟩

end Scan
end CryptoUsage
