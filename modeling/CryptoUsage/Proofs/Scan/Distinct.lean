import CryptoUsage.Proofs.Scan.Emission
import Mathlib.Data.Finset.Card
import Mathlib.Data.List.Nodup

/-!
# What is said once

Findings that say the same are reported once, wherever they come from.  So the outcome has one
finding for each tree that a root with detections has in the end, and two roots are told apart
exactly if their trees are.

A call is told apart from every other call of the same rule if the rule makes an action of it that
carries its location (`ActionFactory.KeepsPlace`, which both factories of the library do): the
action of a store is settled when it takes its site, and is what the rule makes of that site from
then on (`Acted`, which every step keeps).  The values of a tree carry the locations of constants,
which may be the same for two calls.

## How it goes

* What is said once is counted by its trees (`length_dedup`), and every tree that was said is
  still said (`mem_trees_dedup`).
* Actions.  A step settles an action only for the store that takes a site, and an event is made of
  steps, so that `Acted` holds at the end of a scan (`acted_run`).  The snapshot of a root has the
  action of its store; so two calls at different locations have different trees if their rule
  makes an action (`treeOf_ne_of_action`).
* Roots with detections are the emitted ones, and their findings are those of the outcome
  (`mem_trees_outcome`).

`findings_of_detected_roots` says how many findings there are.  In the program below it a constant
is used twice, and the two calls have one finding together.
-/

set_option autoImplicit false

namespace CryptoUsage

namespace Finding

/-- What is said is said once. -/
theorem nodup_trees_dedup (findings : List Finding) :
    ((dedup findings).map Finding.root).Nodup :=
  List.pairwise_map.mpr <| (pairwise_dedup findings).imp fun hsame heq =>
    Bool.eq_false_iff.mp hsame (same_iff.mpr heq)

/-- Everything that was said is still said. -/
theorem mem_trees_dedup {findings : List Finding} {tree : FindingNode} :
    tree ∈ (dedup findings).map Finding.root ↔ tree ∈ findings.map Finding.root := by
  constructor
  · intro hmem
    obtain ⟨f, hf, rfl⟩ := List.mem_map.mp hmem
    rw [dedup_eq_filter] at hf
    obtain ⟨⟨f', i⟩, hentry, rfl⟩ := List.mem_map.mp hf
    have hentry := List.mem_zipIdx_iff_getElem?.mp (List.mem_of_mem_filter hentry)
    exact List.mem_map_of_mem (List.mem_of_getElem? hentry)
  · intro hmem
    obtain ⟨f, hf, rfl⟩ := List.mem_map.mp hmem
    have hsaid : (dedup findings).any f.same = true := by
      rw [any_dedup]
      exact List.any_eq_true.mpr ⟨f, hf, same_iff.mpr rfl⟩
    obtain ⟨g, hg, hsame⟩ := List.any_eq_true.mp hsaid
    exact List.mem_map.mpr ⟨g, hg, (same_iff.mp hsame).symm⟩

/-- What is said once is counted by its trees. -/
theorem length_dedup (findings : List Finding) :
    (dedup findings).length = (findings.map Finding.root).toFinset.card := by
  have hsame : ((dedup findings).map Finding.root).toFinset =
      (findings.map Finding.root).toFinset := by
    ext tree
    rw [List.mem_toFinset, List.mem_toFinset, mem_trees_dedup]
  rw [← hsame, List.toFinset_card_of_nodup (nodup_trees_dedup findings), List.length_map]

end Finding

/-- The action of a store is in its snapshot. -/
theorem Arena.action_project {arena : Arena} {id : StoreId} {store : Store}
    (h : arena.store? id = some store) : (arena.project id).action = store.action := by
  rw [project]
  cases arena.size <;> simp only [projectWithin, h, Option.getD_some, FindingNode.action]

namespace ActionFactory

/-- The actions that a factory makes carry the location of the call. -/
def KeepsPlace (factory : ActionFactory) : Prop :=
  ∀ ⦃method objectType location value⦄,
    factory.create? method objectType location = some value → value.location = location

theorem keepsPlace_fixed (name : String) : (fixed name).KeepsPlace := by
  rintro _ _ _ _ ⟨⟩
  rfl

theorem keepsPlace_methodName : methodName.KeepsPlace := by
  intro method objectType location value h
  simp only [methodName] at h
  split at h
  · obtain ⟨type, -, rfl⟩ := Option.map_eq_some_iff.mp h
    rfl
  · cases h
    rfl

end ActionFactory

namespace Scan

variable {scan : Scan} {s s' : ScanState} {root : StoreId}

theorem location_actionOf? {rule : Rule} {site : Site} {value : DetectedValue}
    (hplace : ∀ factory, rule.action = some factory → factory.KeepsPlace)
    (h : scan.actionOf? rule site = some value) :
    value.location = scan.unit.tree.location site.node := by
  obtain ⟨factory, hfactory, h⟩ := Option.bind_eq_some_iff.mp h
  obtain ⟨name, -, h⟩ := Option.bind_eq_some_iff.mp h
  exact hplace factory hfactory h

/-! ## Actions -/

variable (scan) in
/-- The action of every store is what its rule makes of its site. -/
def Acted (s : ScanState) : Prop :=
  ∀ ⦃id store rule site⦄, s.stores.store? id = some store → store.site = some site →
    scan.catalog.rule? store.rule = some rule → store.action = scan.actionOf? rule site

theorem acted_empty : scan.Acted {} := by
  intro id store rule site hid
  simp [Arena.store?] at hid

/-- A step settles an action only for the store that takes a site. -/
theorem Step.acted (h : scan.Step root s s') (hs : scan.Acted s) : scan.Acted s' := by
  intro id store rule site hid hsite hrule
  cases h.written hid with
  | kept old_eq => exact hs old_eq hsite hrule
  | @filed old at_ old_eq claimed grows =>
    have hsame : at_ = site := Option.some.inj ((grows.site claimed).symm.trans hsite)
    rw [grows.settled (by rw [claimed]; exact Option.some_ne_none _)]
    exact hs old_eq (hsame ▸ claimed) (grows.rule ▸ hrule)
  | @taken old rule' site' may new_eq =>
    subst new_eq
    obtain rfl : rule' = rule := Option.some.inj (may.rule_eq.symm.trans hrule)
    obtain rfl : site' = site := Option.some.inj hsite
    rw [Store.take, may.blank.action]
    cases scan.actionOf? rule' site' <;> rfl
  | followed _ _ _ _ _ new_eq =>
    subst new_eq
    cases hsite
  | @moved _ above _ index target value _ _ _ new_eq =>
    rw [new_eq, Store.file_of_nil rfl] at hsite
    cases hsite

theorem Runs.acted (h : scan.Runs root s s') (hs : scan.Acted s) : scan.Acted s' := by
  induction h with
  | refl => exact hs
  | tail _ hstep ih => exact hstep.acted ih

theorem Acted.congr (h : scan.Acted s) (hstores : s'.stores = s.stores) : scan.Acted s' := by
  intro id store rule site hid
  exact h (hstores ▸ hid)

theorem Acted.plant (h : scan.Acted s) (rule : RuleId) : scan.Acted (plant s rule) := by
  intro id store rule' site hid hsite hrule
  rcases store?_plant_cases hid with ⟨-, rfl⟩ | hold
  · cases hsite
  · exact h hold hsite hrule

theorem Acted.handle (ha : scan.Acted s) (hs : scan.Explained s) {event : HookEvent}
    (hdue : scan.Due s event) : scan.Acted (scan.handle s event) := by
  rcases handle_cases hs hdue with heq | ⟨_, _, s', hooks, -, hruns, -, heq⟩ <;> rw [heq]
  · exact ha
  · exact (hruns.acted ha).congr (stores_emitIfDetected ..)

theorem Acted.tryRoot (ha : scan.Acted s) (hs : scan.Explained s) (n : NodeId) (rule : RuleId) :
    scan.Acted (scan.tryRoot n s rule) := by
  obtain ⟨s', hruns, heq | ⟨heq, -⟩⟩ := tryRoot_cases hs n rule <;> rw [heq]
  · exact (hruns.acted (ha.plant rule)).congr (stores_emitIfDetected ..)
  · exact ha.congr rfl

theorem acted_kept (scan : Scan) : scan.Kept fun s => scan.Sound s ∧ scan.Acted s where
  empty := ⟨sound_empty, acted_empty⟩
  meet _ := fun ⟨hs, ha⟩ => ⟨hs.congr rfl rfl (Nat.le_succ _) rfl, ha.congr rfl⟩
  serve _ hdue := fun ⟨hs, ha⟩ =>
    ⟨⟨(hs.handle hdue).1, ha.handle hs.explained hdue⟩, (hs.handle hdue).2⟩
  attempt _ _ := fun ⟨hs, ha⟩ => ⟨hs.tryRoot .., ha.tryRoot hs.explained ..⟩

theorem acted_run (scan : Scan) : scan.Acted scan.run :=
  run_eq_after scan ▸ ((acted_kept scan).after _).2

/-! ## Roots with detections -/

variable (scan) in
/-- The roots that hold detections at the end of a scan. -/
def detectedRoots : List StoreId :=
  (List.range scan.run.stores.size).filter fun id =>
    (scan.run.stores.store? id).any (·.level == 0) && scan.run.stores.hasDetections id

variable (scan) in
/-- The tree of a root at the end of a scan. -/
def treeOf (root : StoreId) : FindingNode := scan.run.stores.project root

theorem mem_detectedRoots : root ∈ scan.detectedRoots ↔ root ∈ scan.run.emitted := by
  have hs : scan.Sound scan.run := run_eq_after scan ▸ sound_after scan _
  have hlinked := hs.explained.linked
  rw [detectedRoots, List.mem_filter, List.mem_range, Bool.and_eq_true, Option.any_eq_true]
  constructor
  · rintro ⟨-, ⟨store, hid, hlevel⟩, hdetections⟩
    have hpar := (hlinked.parent_eq_none_iff hid).mpr (beq_iff_eq.mp hlevel)
    rw [hlinked.hasDetections_root_iff hid (hlinked.root hid hpar).2] at hdetections
    exact (hs.detected hid hpar).mp hdetections
  · intro hmem
    obtain ⟨store, hid, hpar⟩ := hs.emitted hmem
    obtain ⟨hlevel, hroot⟩ := hlinked.root hid hpar
    refine ⟨Arena.lt_size_of_store? hid, ⟨store, hid, beq_iff_eq.mpr hlevel⟩, ?_⟩
    rw [hlinked.hasDetections_root_iff hid hroot]
    exact (hs.detected hid hpar).mpr hmem

theorem findings_outcome (scan : Scan) :
    scan.outcome.findings = Finding.dedup (scan.run.emitted.map (scan.findingOf scan.run)) := rfl

/-- The trees of the outcome are those of the roots with detections. -/
theorem mem_trees_outcome {tree : FindingNode} :
    tree ∈ scan.outcome.findings.map Finding.root ↔ tree ∈ scan.detectedRoots.map scan.treeOf := by
  rw [findings_outcome, Finding.mem_trees_dedup, List.map_map]
  simp only [List.mem_map, mem_detectedRoots]
  rfl

/-- There are as many findings as different trees. -/
theorem length_findings (scan : Scan) :
    scan.outcome.findings.length = (scan.detectedRoots.map scan.treeOf).toFinset.card := by
  rw [findings_outcome, Finding.length_dedup]
  refine congrArg Finset.card (Finset.ext fun tree => ?_)
  rw [List.mem_toFinset, List.mem_toFinset, ← Finding.mem_trees_dedup, ← findings_outcome,
    mem_trees_outcome]

/-- Calls at different locations have different trees if their rule makes an action of them. -/
theorem treeOf_ne_of_action {root' : StoreId} {store store' : Store} {rule : Rule}
    {site site' : Site} (hid : scan.run.stores.store? root = some store)
    (hid' : scan.run.stores.store? root' = some store') (hrules : store.rule = store'.rule)
    (hrule : scan.catalog.rule? store.rule = some rule) (hsite : store.site = some site)
    (hsite' : store'.site = some site')
    (hplace : ∀ factory, rule.action = some factory → factory.KeepsPlace)
    (hacts : (scan.actionOf? rule site).isSome = true)
    (hlocation : scan.unit.tree.location site.node ≠ scan.unit.tree.location site'.node) :
    scan.treeOf root ≠ scan.treeOf root' := by
  intro heq
  obtain ⟨value, hvalue⟩ := Option.isSome_iff_exists.mp hacts
  have haction : store.action = some value := (acted_run scan hid hsite hrule).trans hvalue
  have haction' : store'.action = scan.actionOf? rule site' :=
    acted_run scan hid' hsite' (hrules ▸ hrule)
  have hsame : store.action = store'.action := by
    rw [← Arena.action_project hid, ← Arena.action_project hid']
    exact congrArg FindingNode.action heq
  have hvalue' : scan.actionOf? rule site' = some value := by rw [← haction', ← hsame, haction]
  exact hlocation
    ((location_actionOf? hplace hvalue).symm.trans (location_actionOf? hplace hvalue'))

/-- **Deduplication hides a root only behind an equal tree.**  Every root with detections has
exactly one finding with its tree; there are as many findings as different trees, and so as many as
roots with detections if and only if no two of those have equal trees.  In particular the trees of
two calls at different locations are different if their rule makes an action of them that carries
the location of the call, as the actions of the library do. -/
theorem findings_of_detected_roots (scan : Scan) :
    (∀ root ∈ scan.detectedRoots,
      ∃! finding, finding ∈ scan.outcome.findings ∧ finding.root = scan.treeOf root) ∧
    scan.outcome.findings.length = (scan.detectedRoots.map scan.treeOf).toFinset.card ∧
    (scan.outcome.findings.length = scan.detectedRoots.length ↔
      scan.detectedRoots.Pairwise fun a b => scan.treeOf a ≠ scan.treeOf b) ∧
    (∀ a ∈ scan.detectedRoots, ∀ b ∈ scan.detectedRoots, ∀ store store' rule site site',
      scan.run.stores.store? a = some store → scan.run.stores.store? b = some store' →
      store.rule = store'.rule → scan.catalog.rule? store.rule = some rule →
      store.site = some site → store'.site = some site' →
      (∀ factory, rule.action = some factory → factory.KeepsPlace) →
      (scan.actionOf? rule site).isSome = true →
      scan.unit.tree.location site.node ≠ scan.unit.tree.location site'.node →
      scan.treeOf a ≠ scan.treeOf b) := by
  have hnodup : (scan.outcome.findings.map Finding.root).Nodup := Finding.nodup_trees_dedup _
  have hlength := length_findings scan
  refine ⟨fun root hroot => ?_, hlength, ?_, ?_⟩
  · have hmem : scan.treeOf root ∈ scan.outcome.findings.map Finding.root :=
      mem_trees_outcome.mpr (List.mem_map_of_mem hroot)
    obtain ⟨finding, hfinding, htree⟩ := List.mem_map.mp hmem
    refine ⟨finding, ⟨hfinding, htree⟩, fun other ⟨hother, htree'⟩ => ?_⟩
    exact List.inj_on_of_nodup_map hnodup hother hfinding (htree'.trans htree.symm)
  · have hcard : (scan.detectedRoots.map scan.treeOf).toFinset.card =
        (scan.detectedRoots.map scan.treeOf).length ↔ (scan.detectedRoots.map scan.treeOf).Nodup :=
      Multiset.toFinset_card_eq_card_iff_nodup
    rw [hlength, ← List.pairwise_map (f := scan.treeOf) (R := (· ≠ ·))]
    rwa [List.length_map] at hcard
  · intro a _ b _ store store' rule site site' hid hid' hrules hrule hsite hsite' hplace hacts
    exact treeOf_ne_of_action hid hid' hrules hrule hsite hsite' hplace hacts

/-! ## A constant that is used twice

In this program both calls of `g` have the value of `k`, which is read off one place:

    k = 1
    g(k)
    g(k)
-/

namespace Repeated

/-- The nodes of the program. -/
def nodes : Array SyntaxNode := #[
  ⟨none, "module", true, none, ⟨1, 1, 0, 16⟩, "k = 1\ng(k)\ng(k)\n"⟩,
  ⟨some 0, "expression_statement", true, none, ⟨1, 1, 0, 5⟩, "k = 1"⟩,
  ⟨some 1, "assignment", true, none, ⟨1, 1, 0, 5⟩, "k = 1"⟩,
  ⟨some 2, "identifier", true, some "left", ⟨1, 1, 0, 1⟩, "k"⟩,
  ⟨some 2, "=", false, none, ⟨1, 3, 2, 3⟩, "="⟩,
  ⟨some 2, "integer", true, some "right", ⟨1, 5, 4, 5⟩, "1"⟩,
  ⟨some 0, "expression_statement", true, none, ⟨2, 1, 6, 10⟩, "g(k)"⟩,
  ⟨some 6, "call", true, none, ⟨2, 1, 6, 10⟩, "g(k)"⟩,
  ⟨some 7, "identifier", true, some "function", ⟨2, 1, 6, 7⟩, "g"⟩,
  ⟨some 7, "argument_list", true, some "arguments", ⟨2, 2, 7, 10⟩, "(k)"⟩,
  ⟨some 9, "(", false, none, ⟨2, 2, 7, 8⟩, "("⟩,
  ⟨some 9, "identifier", true, none, ⟨2, 3, 8, 9⟩, "k"⟩,
  ⟨some 9, ")", false, none, ⟨2, 4, 9, 10⟩, ")"⟩,
  ⟨some 0, "expression_statement", true, none, ⟨3, 1, 11, 15⟩, "g(k)"⟩,
  ⟨some 13, "call", true, none, ⟨3, 1, 11, 15⟩, "g(k)"⟩,
  ⟨some 14, "identifier", true, some "function", ⟨3, 1, 11, 12⟩, "g"⟩,
  ⟨some 14, "argument_list", true, some "arguments", ⟨3, 2, 12, 15⟩, "(k)"⟩,
  ⟨some 16, "(", false, none, ⟨3, 2, 12, 13⟩, "("⟩,
  ⟨some 16, "identifier", true, none, ⟨3, 3, 13, 14⟩, "k"⟩,
  ⟨some 16, ")", false, none, ⟨3, 4, 14, 15⟩, ")"⟩]

/-- The unit with the program. -/
def unit : CompilationUnit where
  language := .python
  filePath := "m.py"
  tree := { nodes, parent_lt := by decide +kernel }

/-- The rule that the argument of a call of `g` is a key of so many bytes. -/
def rule : Rule where
  kind := .full
  matcher := { objectTypes := .any, methodNames := .oneOf ["g"], parameterTypes := .exactly ["*"] }
  parameters := [{ typeName := "*", role := .detectable .keyBytes }]
  next := []
  action := none
  bundle := "Default"
  exactType := false

/-- The scan that meets both calls. -/
def both : Scan where
  catalog := { rules := #[rule], earlier := by decide +kernel }
  roots := [0]
  unit := unit

end Repeated

set_option maxRecDepth 100000 in
/-- Roots at different sites may have one finding together. -/
theorem not_one_finding_each : ¬ ∀ (scan : Scan), scan.roots.Nodup →
    (scan.detectedRoots.Pairwise fun a b =>
      (scan.run.stores.store? a).map (·.site) ≠ (scan.run.stores.store? b).map (·.site)) →
    scan.outcome.findings.length = scan.detectedRoots.length := by
  intro h
  have hsites : Repeated.both.detectedRoots.Pairwise fun a b =>
      (Repeated.both.run.stores.store? a).map (·.site) ≠
        (Repeated.both.run.stores.store? b).map (·.site) := by decide +kernel
  exact absurd (h Repeated.both (by decide) hsites) (by decide +kernel)

end Scan
end CryptoUsage
