import CryptoUsage.Proofs.Scan.Soundness
import Mathlib.Data.List.Forall2
import Mathlib.Data.List.Induction

/-!
# What is emitted and what is reported

A root is emitted when it first holds detections, and its finding is reported then unless one that
says the same was.  In the end every root with detections was emitted, exactly once, however many
hooks fired for it; and the outcome has the findings of the emitted roots as they are in the end.

All of this is stated together in `emitted_exactly_detected`.

## How it goes

* Reporting.  Findings say the same if their trees are equal.  Leaving out repetitions is written
  as a walk in the definition of the outcome; here it is described in ways that are easier to use:
  an item is kept exactly if none before it says the same (`dedup_eq_filter`), no two that are
  kept say the same (`pairwise_dedup`), and what is kept comes from some of the things that the
  findings were made of, in their order (`exists_sublist_dedup`).
* The outcome.  When a root is emitted, its tree is not finished.  `Forms` gives each emitted root
  the finding that it had in that state, and says that what was reported are these findings
  without repetitions.  A look at a root adds at most one (`Forms.emitIfDetected`), and so every
  event keeps `Forms` (`forms_kept`).
* That a root is emitted exactly if something was detected in its tree is a part of soundness, and
  nothing more is needed for it here.

The scan at the end has three roots: the last one is emitted first, as its size is known at once,
the first one when its caller is met, and the one between them waits in vain.
-/

set_option autoImplicit false

namespace CryptoUsage

namespace Finding

theorem same_iff {a b : Finding} : a.same b = true ↔ a.root = b.root := beq_iff_eq

theorem dedup_append_singleton (findings : List Finding) (f : Finding) :
    dedup (findings ++ [f]) =
      if (dedup findings).any f.same then dedup findings else dedup findings ++ [f] := by
  rw [dedup, List.foldl_append]
  rfl

/-- Every finding is still said after the later ones that say the same are dropped. -/
theorem any_dedup (findings : List Finding) (f : Finding) :
    (dedup findings).any f.same = findings.any f.same := by
  induction findings using List.reverseRecOn with
  | nil => rfl
  | append_singleton findings last ih =>
    rw [dedup_append_singleton, List.any_append, List.any_cons, List.any_nil, Bool.or_false]
    split
    · next hknown =>
      rw [ih]
      cases hlast : f.same last with
      | false => rw [Bool.or_false]
      | true =>
        -- what says the same as the last one is said before
        obtain ⟨g, hg, hsame⟩ := List.any_eq_true.mp hknown
        rw [Bool.or_true, ← ih, List.any_eq_true]
        exact ⟨g, hg, same_iff.mpr ((same_iff.mp hlast).trans (same_iff.mp hsame))⟩
    · rw [List.any_append, ih, List.any_cons, List.any_nil, Bool.or_false]

/-- The findings without repetitions are those before which none says the same. -/
theorem dedup_eq_filter (findings : List Finding) :
    dedup findings =
      (findings.zipIdx.filter fun (f, i) => !(findings.take i).any f.same).map Prod.fst := by
  induction findings using List.reverseRecOn with
  | nil => rfl
  | append_singleton findings last ih =>
    have hbefore : (findings.zipIdx.filter fun (f, i) =>
        !((findings ++ [last]).take i).any f.same) =
          findings.zipIdx.filter fun (f, i) => !(findings.take i).any f.same := by
      refine List.filter_congr ?_
      rintro ⟨f, i⟩ hentry
      obtain ⟨hlt, -⟩ := List.getElem?_eq_some_iff.mp (List.mem_zipIdx_iff_getElem?.mp hentry)
      simp only [List.take_append_of_le_length (Nat.le_of_lt hlt)]
    rw [dedup_append_singleton, any_dedup, ih, List.zipIdx_append, List.filter_append, hbefore,
      List.map_append]
    cases hknown : findings.any last.same <;> simp [hknown]

/-- What is kept is said once. -/
theorem pairwise_dedup (findings : List Finding) :
    (dedup findings).Pairwise fun a b => a.same b = false := by
  induction findings using List.reverseRecOn with
  | nil => exact .nil
  | append_singleton findings last ih =>
    rw [dedup_append_singleton]
    split
    · exact ih
    · next hnew =>
      refine List.pairwise_append.mpr ⟨ih, List.pairwise_singleton .., fun a ha b hb => ?_⟩
      obtain rfl := List.mem_singleton.mp hb
      refine Bool.eq_false_iff.mpr fun hsame => hnew (List.any_eq_true.mpr ⟨a, ha, ?_⟩)
      exact same_iff.mpr (same_iff.mp hsame).symm

/-- What is kept comes from some of the things that findings were made of, in their order. -/
theorem exists_sublist_dedup {α : Type} (l : List α) (f : α → Finding) :
    ∃ kept : List α, kept.Sublist l ∧ dedup (l.map f) = kept.map f := by
  induction l using List.reverseRecOn with
  | nil => exact ⟨[], .refl _, rfl⟩
  | append_singleton l last ih =>
    obtain ⟨kept, hkept, hdedup⟩ := ih
    rw [List.map_append, List.map_singleton, dedup_append_singleton, hdedup]
    split
    · exact ⟨kept, hkept.trans (List.sublist_append_left ..), rfl⟩
    · exact ⟨kept ++ [last], hkept.append (.refl _), by rw [List.map_append, List.map_singleton]⟩

end Finding

namespace Scan

variable {scan : Scan} {s s' : ScanState}

/-! ## Reporting -/

variable (scan) in
/-- A finding is that of a root as it was when the root was emitted. -/
def IsEmittedAs (root : StoreId) (finding : Finding) : Prop :=
  ∃ s s', scan.Advances s s' ∧ s'.emitted = s.emitted ++ [root] ∧
    finding = scan.findingOf s' root

variable (scan) in
/-- The findings as which the roots of a state were emitted.  They were reported without those that
say the same as an earlier one. -/
structure Forms (s : ScanState) (form : StoreId → Finding) : Prop where
  emitted : ∀ root ∈ s.emitted, scan.IsEmittedAs root (form root)
  reported : s.reported = Finding.dedup (s.emitted.map form)

variable {root : StoreId} {form : StoreId → Finding}

theorem Forms.congr (h : scan.Forms s form) (hemitted : s'.emitted = s.emitted)
    (hreported : s'.reported = s.reported) : scan.Forms s' form :=
  ⟨hemitted ▸ h.emitted, hemitted ▸ hreported ▸ h.reported⟩

/-- A look at a root adds at most its form. -/
theorem Forms.emitIfDetected (h : scan.Forms s form)
    (hadvances : scan.Advances s (scan.emitIfDetected s' root)) (hemitted : s'.emitted = s.emitted)
    (hreported : s'.reported = s.reported) :
    ∃ form, scan.Forms (scan.emitIfDetected s' root) form := by
  rcases emitIfDetected_cases scan s' root with ⟨heq, -⟩ | ⟨-, hnew, heq⟩
  · rw [heq]
    exact ⟨form, h.congr hemitted hreported⟩
  · rw [hemitted] at hnew
    have hemitted' : (scan.emitIfDetected s' root).emitted = s.emitted ++ [root] := by
      rw [heq, hemitted]
    have hform : scan.IsEmittedAs root (scan.findingOf s' root) :=
      ⟨s, _, hadvances, hemitted', by rw [findingOf, findingOf, stores_emitIfDetected]⟩
    have hold : ∀ id ∈ s.emitted, Function.update form root (scan.findingOf s' root) id = form id :=
      fun id hid => Function.update_of_ne (ne_of_mem_of_not_mem hid hnew) ..
    refine ⟨Function.update form root (scan.findingOf s' root), fun id hid => ?_, ?_⟩
    · rw [hemitted', List.mem_append, List.mem_singleton] at hid
      rcases hid with hid | rfl
      · rw [hold id hid]
        exact h.emitted id hid
      · rwa [Function.update_self]
    · rw [hemitted', List.map_append, List.map_singleton, Function.update_self,
        Finding.dedup_append_singleton, List.map_congr_left hold, ← h.reported, ← hreported, heq]

theorem forms_kept (scan : Scan) : scan.Kept fun s => scan.Sound s ∧ ∃ form, scan.Forms s form where
  empty := ⟨sound_empty, fun _ => scan.findingOf {} 0, nofun, rfl⟩
  meet _ := fun ⟨hs, form, hf⟩ => ⟨hs.congr rfl rfl (Nat.le_succ _) rfl, form, hf.congr rfl rfl⟩
  serve := by
    intro s event hadvances hdue ⟨hs, form, hf⟩
    obtain ⟨hsound, hkinds⟩ := hs.handle hdue
    refine ⟨⟨hsound, ?_⟩, hkinds⟩
    rcases handle_cases hs.explained hdue with heq | ⟨_, observer, s', hooks, -, hruns, -, heq⟩
    · rw [heq]
      exact ⟨form, hf⟩
    · rw [heq] at hadvances ⊢
      exact hf.emitIfDetected hadvances hruns.emitted_eq hruns.reported_eq
  attempt := by
    intro s n site rule hadvances _ ⟨hs, form, hf⟩
    refine ⟨hs.tryRoot n rule, ?_⟩
    obtain ⟨s', hruns, heq | ⟨heq, -⟩⟩ := tryRoot_cases hs.explained n rule
    · rw [heq] at hadvances ⊢
      exact hf.emitIfDetected hadvances hruns.emitted_eq hruns.reported_eq
    · rw [heq]
      exact ⟨form, hf.congr hruns.emitted_eq hruns.reported_eq⟩

theorem exists_forms (scan : Scan) : ∃ form, scan.Forms scan.run form :=
  run_eq_after scan ▸ ((forms_kept scan).after _).2

variable (scan) in
/-- What was reported are findings of different roots, and they are all different. -/
structure Reported (s : ScanState) : Prop where
  once : ∃ roots, roots.Sublist s.emitted ∧ List.Forall₂ scan.IsEmittedAs roots s.reported
  distinct : s.reported.Pairwise fun a b => a.same b = false

theorem Forms.isReported (h : scan.Forms s form) : scan.Reported s := by
  obtain ⟨roots, hroots, hdedup⟩ := Finding.exists_sublist_dedup s.emitted form
  refine ⟨⟨roots, hroots, ?_⟩, ?_⟩
  · rw [h.reported, hdedup, List.forall₂_map_right_iff, List.forall₂_same]
    exact fun root hroot => h.emitted root (hroots.subset hroot)
  · rw [h.reported]
    exact Finding.pairwise_dedup _

theorem reported_after (scan : Scan) (count : Nat) : scan.Reported (scan.after count) := by
  obtain ⟨-, form, hform⟩ := (forms_kept scan).after count
  exact hform.isReported

/-! ## The outcome -/

/-- **Emission is exact.**  At the end of a scan a root was emitted if and only if there is a value
or an action in its tree; it was emitted once, and then its finding was reported at most once, where
no two reported findings say the same.  The outcome has the findings of the emitted roots as they
are in the end, in the order of emission, without those that say the same as an earlier one. -/
theorem emitted_exactly_detected (scan : Scan) :
    (∀ root store, scan.run.stores.store? root = some store → store.level = 0 →
      (root ∈ scan.run.emitted ↔ ∃ id below, scan.run.stores.Under root id ∧
        scan.run.stores.store? id = some below ∧ below.isDetection = true)) ∧
    (∀ root ∈ scan.run.emitted, ∃ store, scan.run.stores.store? root = some store ∧
      store.level = 0) ∧
    scan.run.emitted.Nodup ∧
    (∃ roots, roots.Sublist scan.run.emitted ∧
      List.Forall₂ scan.IsEmittedAs roots scan.run.reported) ∧
    scan.run.reported.Pairwise (fun a b => a.root ≠ b.root) ∧
    (let projections := scan.run.emitted.map (scan.findingOf scan.run)
     scan.outcome.findings =
      (projections.zipIdx.filter fun (f, i) => !(projections.take i).any f.same).map Prod.fst) := by
  have hs : scan.Sound scan.run := run_eq_after scan ▸ sound_after scan _
  have hr : scan.Reported scan.run := run_eq_after scan ▸ reported_after scan _
  have hlinked := hs.explained.linked
  refine ⟨fun root store hroot hlevel => ?_, fun root hmem => ?_, hs.nodup, hr.once, ?_, ?_⟩
  · have hpar := (hlinked.parent_eq_none_iff hroot).mpr hlevel
    rw [← hs.detected hroot hpar,
      ← hlinked.hasDetections_root_iff hroot (hlinked.root hroot hpar).2,
      hlinked.hasDetections_iff]
  · obtain ⟨store, hroot, hpar⟩ := hs.emitted hmem
    exact ⟨store, hroot, (hlinked.root hroot hpar).1⟩
  · exact hr.distinct.imp fun hne heq => Bool.eq_false_iff.mp hne (Finding.same_iff.mpr heq)
  · exact Finding.dedup_eq_filter _

/-! ### Three calls

In this program the size of the key is known of the last call of `g` first, and of the one in `f`
when `f` is called.  Nobody calls `k`.

    def f(x):
        g(x)
    def k(y):
        g(y)
    g(1)
    f(2)
-/

namespace Called

/-- The nodes of the program. -/
def nodes : Array SyntaxNode := #[
  ⟨none, "module", true, none, ⟨1, 1, 0, 48⟩, "def f(x):\n    g(x)\ndef k(y):\n    g(y)\ng(1)\nf(2)\n"⟩,
  ⟨some 0, "function_definition", true, none, ⟨1, 1, 0, 18⟩, "def f(x):\n    g(x)"⟩,
  ⟨some 1, "def", false, none, ⟨1, 1, 0, 3⟩, "def"⟩,
  ⟨some 1, "identifier", true, some "name", ⟨1, 5, 4, 5⟩, "f"⟩,
  ⟨some 1, "parameters", true, some "parameters", ⟨1, 6, 5, 8⟩, "(x)"⟩,
  ⟨some 4, "(", false, none, ⟨1, 6, 5, 6⟩, "("⟩,
  ⟨some 4, "identifier", true, none, ⟨1, 7, 6, 7⟩, "x"⟩,
  ⟨some 4, ")", false, none, ⟨1, 8, 7, 8⟩, ")"⟩,
  ⟨some 1, ":", false, none, ⟨1, 9, 8, 9⟩, ":"⟩,
  ⟨some 1, "block", true, some "body", ⟨2, 5, 14, 18⟩, "g(x)"⟩,
  ⟨some 9, "expression_statement", true, none, ⟨2, 5, 14, 18⟩, "g(x)"⟩,
  ⟨some 10, "call", true, none, ⟨2, 5, 14, 18⟩, "g(x)"⟩,
  ⟨some 11, "identifier", true, some "function", ⟨2, 5, 14, 15⟩, "g"⟩,
  ⟨some 11, "argument_list", true, some "arguments", ⟨2, 6, 15, 18⟩, "(x)"⟩,
  ⟨some 13, "(", false, none, ⟨2, 6, 15, 16⟩, "("⟩,
  ⟨some 13, "identifier", true, none, ⟨2, 7, 16, 17⟩, "x"⟩,
  ⟨some 13, ")", false, none, ⟨2, 8, 17, 18⟩, ")"⟩,
  ⟨some 0, "function_definition", true, none, ⟨3, 1, 19, 37⟩, "def k(y):\n    g(y)"⟩,
  ⟨some 17, "def", false, none, ⟨3, 1, 19, 22⟩, "def"⟩,
  ⟨some 17, "identifier", true, some "name", ⟨3, 5, 23, 24⟩, "k"⟩,
  ⟨some 17, "parameters", true, some "parameters", ⟨3, 6, 24, 27⟩, "(y)"⟩,
  ⟨some 20, "(", false, none, ⟨3, 6, 24, 25⟩, "("⟩,
  ⟨some 20, "identifier", true, none, ⟨3, 7, 25, 26⟩, "y"⟩,
  ⟨some 20, ")", false, none, ⟨3, 8, 26, 27⟩, ")"⟩,
  ⟨some 17, ":", false, none, ⟨3, 9, 27, 28⟩, ":"⟩,
  ⟨some 17, "block", true, some "body", ⟨4, 5, 33, 37⟩, "g(y)"⟩,
  ⟨some 25, "expression_statement", true, none, ⟨4, 5, 33, 37⟩, "g(y)"⟩,
  ⟨some 26, "call", true, none, ⟨4, 5, 33, 37⟩, "g(y)"⟩,
  ⟨some 27, "identifier", true, some "function", ⟨4, 5, 33, 34⟩, "g"⟩,
  ⟨some 27, "argument_list", true, some "arguments", ⟨4, 6, 34, 37⟩, "(y)"⟩,
  ⟨some 29, "(", false, none, ⟨4, 6, 34, 35⟩, "("⟩,
  ⟨some 29, "identifier", true, none, ⟨4, 7, 35, 36⟩, "y"⟩,
  ⟨some 29, ")", false, none, ⟨4, 8, 36, 37⟩, ")"⟩,
  ⟨some 0, "expression_statement", true, none, ⟨5, 1, 38, 42⟩, "g(1)"⟩,
  ⟨some 33, "call", true, none, ⟨5, 1, 38, 42⟩, "g(1)"⟩,
  ⟨some 34, "identifier", true, some "function", ⟨5, 1, 38, 39⟩, "g"⟩,
  ⟨some 34, "argument_list", true, some "arguments", ⟨5, 2, 39, 42⟩, "(1)"⟩,
  ⟨some 36, "(", false, none, ⟨5, 2, 39, 40⟩, "("⟩,
  ⟨some 36, "integer", true, none, ⟨5, 3, 40, 41⟩, "1"⟩,
  ⟨some 36, ")", false, none, ⟨5, 4, 41, 42⟩, ")"⟩,
  ⟨some 0, "expression_statement", true, none, ⟨6, 1, 43, 47⟩, "f(2)"⟩,
  ⟨some 40, "call", true, none, ⟨6, 1, 43, 47⟩, "f(2)"⟩,
  ⟨some 41, "identifier", true, some "function", ⟨6, 1, 43, 44⟩, "f"⟩,
  ⟨some 41, "argument_list", true, some "arguments", ⟨6, 2, 44, 47⟩, "(2)"⟩,
  ⟨some 43, "(", false, none, ⟨6, 2, 44, 45⟩, "("⟩,
  ⟨some 43, "integer", true, none, ⟨6, 3, 45, 46⟩, "2"⟩,
  ⟨some 43, ")", false, none, ⟨6, 4, 46, 47⟩, ")"⟩]

/-- The rule that the argument of a call of `g` is a key of so many bytes. -/
def rule : Rule where
  kind := .full
  matcher := { objectTypes := .any, methodNames := .oneOf ["g"], parameterTypes := .exactly ["*"] }
  parameters := [{ typeName := "*", role := .detectable .keyBytes }]
  next := []
  action := none
  bundle := "Default"
  exactType := false

/-- The scan of the program. -/
def work : Scan where
  catalog := { rules := #[rule], earlier := by decide +kernel }
  roots := [0]
  unit :=
    { language := .python
      filePath := "m.py"
      tree := { nodes, parent_lt := by decide +kernel } }

end Called

/-- Each call of `g` has a root.  Those of which the size is known are emitted in the order in which
it becomes known, and the root in `k`, which still waits at the end, is not. -/
theorem emitted_when_detected :
    Called.work.run.stores.size = 3 ∧ Called.work.run.emitted = [2, 0] ∧
      (Called.work.run.stores.hasDetections 1 = false ∧
        Called.work.run.hooks.hasPendingForRoot 1 = true) ∧
      Called.work.run.reported.length = 2 ∧ Called.work.outcome.findings.length = 2 := by
  decide +kernel

end Scan
end CryptoUsage
