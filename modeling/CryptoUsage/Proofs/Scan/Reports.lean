import CryptoUsage.Proofs.Scan.Completion

/-!
# Reports and the outcome

A root is reported when it is emitted, unless a finding with the same tree was; the outcome has
the trees as they are in the end, each once.  In between the trees go on growing.  So the reports
and the outcome need not be equally many: roots whose trees are equal when they are emitted may
come to differ, and roots whose trees differ may come to agree.

What can be said is how the two lists are made from the same roots (`reports_and_outcome`): every
finding of the outcome completes one that was reported, and the numbers agree if the trees agree
with each other in the end just as they did at emission.

## How it goes

* Both lists leave out repetitions, one from the forms in which the roots were emitted and one
  from their trees in the end.  The number of entries is then that of different trees
  (`length_dedup`), and lists that repeat at the same places have equally many different entries
  (`card_toFinset_congr`).
* A finding of the outcome has the tree of an emitted root.  The form of that root was reported,
  by itself or behind an equal one, and its tree completes the form (`Forms.exists_report`); the
  other way is the same argument (`Forms.exists_finding`).

The two programs at the end have the same rules.  In the first, roots with equal trees part after
they were reported, so that there are more findings than reports; in the second, roots with
different trees come to agree.
-/

set_option autoImplicit false

namespace CryptoUsage
namespace Scan

variable {scan : Scan}

/-- Lists that repeat at the same places have equally many different entries. -/
theorem card_toFinset_congr {α β γ : Type} [DecidableEq β] [DecidableEq γ] {f : α → β} {g : α → γ}
    {l : List α} (h : ∀ a ∈ l, ∀ b ∈ l, f a = f b ↔ g a = g b) :
    (l.map f).toFinset.card = (l.map g).toFinset.card := by
  induction l with
  | nil => rfl
  | cons a l ih =>
    have hrepeats : f a ∈ (l.map f).toFinset ↔ g a ∈ (l.map g).toFinset := by
      rw [List.mem_toFinset, List.mem_toFinset, List.mem_map, List.mem_map]
      refine exists_congr fun b => and_congr_right fun hb => ?_
      exact h b (List.mem_cons_of_mem _ hb) a List.mem_cons_self
    have hrest := ih fun b hb c hc => h b (List.mem_cons_of_mem _ hb) c (List.mem_cons_of_mem _ hc)
    rw [List.map_cons, List.map_cons, List.toFinset_cons, List.toFinset_cons,
      Finset.card_insert_eq_ite, Finset.card_insert_eq_ite, hrest]
    simp only [hrepeats]

/-- Every finding of the outcome completes one that was reported. -/
theorem Forms.exists_report {form : StoreId → Finding} (h : scan.Forms scan.run form)
    {finding : Finding} (hfinding : finding ∈ scan.outcome.findings) :
    ∃ report ∈ scan.run.reported, report.root.IsCompletedBy finding.root := by
  have htree : finding.root ∈ scan.outcome.findings.map Finding.root := List.mem_map_of_mem hfinding
  rw [findings_outcome, Finding.mem_trees_dedup, List.map_map] at htree
  obtain ⟨root, hroot, hfinal⟩ := List.mem_map.mp htree
  have hsaid : (form root).root ∈ scan.run.reported.map Finding.root := by
    rw [h.reported, Finding.mem_trees_dedup, List.map_map]
    exact List.mem_map_of_mem (f := Finding.root ∘ form) hroot
  obtain ⟨report, hreport, hsame⟩ := List.mem_map.mp hsaid
  refine ⟨report, hreport, ?_⟩
  rw [hsame, ← hfinal]
  exact (h.emitted root hroot).isCompletedBy.2

/-- Every reported finding is completed by one of the outcome. -/
theorem Forms.exists_finding {form : StoreId → Finding} (h : scan.Forms scan.run form)
    {report : Finding} (hreport : report ∈ scan.run.reported) :
    ∃ finding ∈ scan.outcome.findings, report.root.IsCompletedBy finding.root := by
  have htree : report.root ∈ scan.run.reported.map Finding.root := List.mem_map_of_mem hreport
  rw [h.reported, Finding.mem_trees_dedup, List.map_map] at htree
  obtain ⟨root, hroot, hform⟩ := List.mem_map.mp htree
  have hsaid : scan.treeOf root ∈ scan.outcome.findings.map Finding.root := by
    rw [findings_outcome, Finding.mem_trees_dedup, List.map_map]
    exact List.mem_map_of_mem (f := Finding.root ∘ scan.findingOf scan.run) hroot
  obtain ⟨finding, hfinding, hsame⟩ := List.mem_map.mp hsaid
  refine ⟨finding, hfinding, ?_⟩
  rw [hsame, ← hform]
  exact (h.emitted root hroot).isCompletedBy.2

/-- **The reporter sees every finding, as it is when its root is emitted.**  The reports are the
findings as which the roots were emitted, and the outcome has the findings of the same roots in the
end, both without those that say the same as an earlier one.  Every finding of the outcome completes
a reported one, and every reported one is completed by one of the outcome.  There are as many
reports as different trees at emission and as many findings as different trees in the end; so the
numbers agree if the trees of any two roots are equal at emission exactly if they are equal in the
end. -/
theorem reports_and_outcome (scan : Scan) :
    ∃ form : StoreId → Finding,
      (∀ root ∈ scan.run.emitted, scan.IsEmittedAs root (form root)) ∧
      scan.run.reported = Finding.dedup (scan.run.emitted.map form) ∧
      scan.outcome.findings = Finding.dedup (scan.run.emitted.map (scan.findingOf scan.run)) ∧
      (∀ finding ∈ scan.outcome.findings, ∃ report ∈ scan.run.reported,
        report.root.IsCompletedBy finding.root) ∧
      (∀ report ∈ scan.run.reported, ∃ finding ∈ scan.outcome.findings,
        report.root.IsCompletedBy finding.root) ∧
      scan.run.reported.length =
        (scan.run.emitted.map fun root => (form root).root).toFinset.card ∧
      scan.outcome.findings.length = (scan.run.emitted.map scan.treeOf).toFinset.card ∧
      ((∀ a ∈ scan.run.emitted, ∀ b ∈ scan.run.emitted,
          (form a).root = (form b).root ↔ scan.treeOf a = scan.treeOf b) →
        scan.run.reported.length = scan.outcome.findings.length) := by
  obtain ⟨form, h⟩ := exists_forms scan
  have hreports : scan.run.reported.length =
      (scan.run.emitted.map fun root => (form root).root).toFinset.card := by
    rw [h.reported, Finding.length_dedup, List.map_map]
    rfl
  have hfindings : scan.outcome.findings.length =
      (scan.run.emitted.map scan.treeOf).toFinset.card := by
    rw [findings_outcome, Finding.length_dedup, List.map_map]
    rfl
  refine ⟨form, h.emitted, h.reported, rfl, fun _ => h.exists_report, fun _ => h.exists_finding,
    hreports, hfindings, fun hagree => ?_⟩
  rw [hreports, hfindings]
  exact card_toFinset_congr hagree

/-! ## Roots that part, and roots that meet

Both programs are scanned for calls of `g`, whose arguments are keys of so many bytes.

In the first one both calls have the value of `k` when they are emitted, and nothing else; what the
parameters are is known only when `f` is called.

    def f(a, b):
        k = 1
        g(k, a)
        g(k, b)
    f(2, 3)

In the second one the call of `g` in `f` is emitted with the value of `k`.  The other one has two
values at once, and they are the same ones that the first has after the second call of `f`.

    def f(a):
        g(a)
    k = 1
    f(k)
    z = k
    z = 2
    g(z)
    f(z)
-/

/-- The rule that so many arguments of a call of `g`, which are numbers if their types are known,
are keys of so many bytes. -/
def keyRule (count : Nat) : Rule where
  kind := .full
  matcher := { objectTypes := .any, methodNames := .oneOf ["g"],
               parameterTypes := .exactly (List.replicate count "int") }
  parameters := List.replicate count { typeName := "int", role := .detectable .keyBytes }
  next := []
  action := none
  bundle := "Default"
  exactType := false

/-- The scan of a program for calls of `g` with one argument or with two. -/
def keyScan (tree : SyntaxTree) : Scan where
  catalog := { rules := #[keyRule 1, keyRule 2], earlier := by decide +kernel }
  roots := [0, 1]
  unit := { language := .python, filePath := "m.py", tree }

/-- The first program. -/
def parting : SyntaxTree where
  nodes := #[
  ⟨none, "module", true, none, ⟨1, 1, 0, 55⟩, "def f(a, b):\n    k = 1\n    g(k, a)\n    g(k, b)\nf(2, 3)\n"⟩,
  ⟨some 0, "function_definition", true, none, ⟨1, 1, 0, 46⟩, "def f(a, b):\n    k = 1\n    g(k, a)\n    g(k, b)"⟩,
  ⟨some 1, "def", false, none, ⟨1, 1, 0, 3⟩, "def"⟩,
  ⟨some 1, "identifier", true, some "name", ⟨1, 5, 4, 5⟩, "f"⟩,
  ⟨some 1, "parameters", true, some "parameters", ⟨1, 6, 5, 11⟩, "(a, b)"⟩,
  ⟨some 4, "(", false, none, ⟨1, 6, 5, 6⟩, "("⟩,
  ⟨some 4, "identifier", true, none, ⟨1, 7, 6, 7⟩, "a"⟩,
  ⟨some 4, ",", false, none, ⟨1, 8, 7, 8⟩, ","⟩,
  ⟨some 4, "identifier", true, none, ⟨1, 10, 9, 10⟩, "b"⟩,
  ⟨some 4, ")", false, none, ⟨1, 11, 10, 11⟩, ")"⟩,
  ⟨some 1, ":", false, none, ⟨1, 12, 11, 12⟩, ":"⟩,
  ⟨some 1, "block", true, some "body", ⟨2, 5, 17, 46⟩, "k = 1\n    g(k, a)\n    g(k, b)"⟩,
  ⟨some 11, "expression_statement", true, none, ⟨2, 5, 17, 22⟩, "k = 1"⟩,
  ⟨some 12, "assignment", true, none, ⟨2, 5, 17, 22⟩, "k = 1"⟩,
  ⟨some 13, "identifier", true, some "left", ⟨2, 5, 17, 18⟩, "k"⟩,
  ⟨some 13, "=", false, none, ⟨2, 7, 19, 20⟩, "="⟩,
  ⟨some 13, "integer", true, some "right", ⟨2, 9, 21, 22⟩, "1"⟩,
  ⟨some 11, "expression_statement", true, none, ⟨3, 5, 27, 34⟩, "g(k, a)"⟩,
  ⟨some 17, "call", true, none, ⟨3, 5, 27, 34⟩, "g(k, a)"⟩,
  ⟨some 18, "identifier", true, some "function", ⟨3, 5, 27, 28⟩, "g"⟩,
  ⟨some 18, "argument_list", true, some "arguments", ⟨3, 6, 28, 34⟩, "(k, a)"⟩,
  ⟨some 20, "(", false, none, ⟨3, 6, 28, 29⟩, "("⟩,
  ⟨some 20, "identifier", true, none, ⟨3, 7, 29, 30⟩, "k"⟩,
  ⟨some 20, ",", false, none, ⟨3, 8, 30, 31⟩, ","⟩,
  ⟨some 20, "identifier", true, none, ⟨3, 10, 32, 33⟩, "a"⟩,
  ⟨some 20, ")", false, none, ⟨3, 11, 33, 34⟩, ")"⟩,
  ⟨some 11, "expression_statement", true, none, ⟨4, 5, 39, 46⟩, "g(k, b)"⟩,
  ⟨some 26, "call", true, none, ⟨4, 5, 39, 46⟩, "g(k, b)"⟩,
  ⟨some 27, "identifier", true, some "function", ⟨4, 5, 39, 40⟩, "g"⟩,
  ⟨some 27, "argument_list", true, some "arguments", ⟨4, 6, 40, 46⟩, "(k, b)"⟩,
  ⟨some 29, "(", false, none, ⟨4, 6, 40, 41⟩, "("⟩,
  ⟨some 29, "identifier", true, none, ⟨4, 7, 41, 42⟩, "k"⟩,
  ⟨some 29, ",", false, none, ⟨4, 8, 42, 43⟩, ","⟩,
  ⟨some 29, "identifier", true, none, ⟨4, 10, 44, 45⟩, "b"⟩,
  ⟨some 29, ")", false, none, ⟨4, 11, 45, 46⟩, ")"⟩,
  ⟨some 0, "expression_statement", true, none, ⟨5, 1, 47, 54⟩, "f(2, 3)"⟩,
  ⟨some 35, "call", true, none, ⟨5, 1, 47, 54⟩, "f(2, 3)"⟩,
  ⟨some 36, "identifier", true, some "function", ⟨5, 1, 47, 48⟩, "f"⟩,
  ⟨some 36, "argument_list", true, some "arguments", ⟨5, 2, 48, 54⟩, "(2, 3)"⟩,
  ⟨some 38, "(", false, none, ⟨5, 2, 48, 49⟩, "("⟩,
  ⟨some 38, "integer", true, none, ⟨5, 3, 49, 50⟩, "2"⟩,
  ⟨some 38, ",", false, none, ⟨5, 4, 50, 51⟩, ","⟩,
  ⟨some 38, "integer", true, none, ⟨5, 6, 52, 53⟩, "3"⟩,
  ⟨some 38, ")", false, none, ⟨5, 7, 53, 54⟩, ")"⟩]
  parent_lt := by decide +kernel

/-- The second program. -/
def meeting : SyntaxTree where
  nodes := #[
  ⟨none, "module", true, none, ⟨1, 1, 0, 52⟩, "def f(a):\n    g(a)\nk = 1\nf(k)\nz = k\nz = 2\ng(z)\nf(z)\n"⟩,
  ⟨some 0, "function_definition", true, none, ⟨1, 1, 0, 18⟩, "def f(a):\n    g(a)"⟩,
  ⟨some 1, "def", false, none, ⟨1, 1, 0, 3⟩, "def"⟩,
  ⟨some 1, "identifier", true, some "name", ⟨1, 5, 4, 5⟩, "f"⟩,
  ⟨some 1, "parameters", true, some "parameters", ⟨1, 6, 5, 8⟩, "(a)"⟩,
  ⟨some 4, "(", false, none, ⟨1, 6, 5, 6⟩, "("⟩,
  ⟨some 4, "identifier", true, none, ⟨1, 7, 6, 7⟩, "a"⟩,
  ⟨some 4, ")", false, none, ⟨1, 8, 7, 8⟩, ")"⟩,
  ⟨some 1, ":", false, none, ⟨1, 9, 8, 9⟩, ":"⟩,
  ⟨some 1, "block", true, some "body", ⟨2, 5, 14, 18⟩, "g(a)"⟩,
  ⟨some 9, "expression_statement", true, none, ⟨2, 5, 14, 18⟩, "g(a)"⟩,
  ⟨some 10, "call", true, none, ⟨2, 5, 14, 18⟩, "g(a)"⟩,
  ⟨some 11, "identifier", true, some "function", ⟨2, 5, 14, 15⟩, "g"⟩,
  ⟨some 11, "argument_list", true, some "arguments", ⟨2, 6, 15, 18⟩, "(a)"⟩,
  ⟨some 13, "(", false, none, ⟨2, 6, 15, 16⟩, "("⟩,
  ⟨some 13, "identifier", true, none, ⟨2, 7, 16, 17⟩, "a"⟩,
  ⟨some 13, ")", false, none, ⟨2, 8, 17, 18⟩, ")"⟩,
  ⟨some 0, "expression_statement", true, none, ⟨3, 1, 19, 24⟩, "k = 1"⟩,
  ⟨some 17, "assignment", true, none, ⟨3, 1, 19, 24⟩, "k = 1"⟩,
  ⟨some 18, "identifier", true, some "left", ⟨3, 1, 19, 20⟩, "k"⟩,
  ⟨some 18, "=", false, none, ⟨3, 3, 21, 22⟩, "="⟩,
  ⟨some 18, "integer", true, some "right", ⟨3, 5, 23, 24⟩, "1"⟩,
  ⟨some 0, "expression_statement", true, none, ⟨4, 1, 25, 29⟩, "f(k)"⟩,
  ⟨some 22, "call", true, none, ⟨4, 1, 25, 29⟩, "f(k)"⟩,
  ⟨some 23, "identifier", true, some "function", ⟨4, 1, 25, 26⟩, "f"⟩,
  ⟨some 23, "argument_list", true, some "arguments", ⟨4, 2, 26, 29⟩, "(k)"⟩,
  ⟨some 25, "(", false, none, ⟨4, 2, 26, 27⟩, "("⟩,
  ⟨some 25, "identifier", true, none, ⟨4, 3, 27, 28⟩, "k"⟩,
  ⟨some 25, ")", false, none, ⟨4, 4, 28, 29⟩, ")"⟩,
  ⟨some 0, "expression_statement", true, none, ⟨5, 1, 30, 35⟩, "z = k"⟩,
  ⟨some 29, "assignment", true, none, ⟨5, 1, 30, 35⟩, "z = k"⟩,
  ⟨some 30, "identifier", true, some "left", ⟨5, 1, 30, 31⟩, "z"⟩,
  ⟨some 30, "=", false, none, ⟨5, 3, 32, 33⟩, "="⟩,
  ⟨some 30, "identifier", true, some "right", ⟨5, 5, 34, 35⟩, "k"⟩,
  ⟨some 0, "expression_statement", true, none, ⟨6, 1, 36, 41⟩, "z = 2"⟩,
  ⟨some 34, "assignment", true, none, ⟨6, 1, 36, 41⟩, "z = 2"⟩,
  ⟨some 35, "identifier", true, some "left", ⟨6, 1, 36, 37⟩, "z"⟩,
  ⟨some 35, "=", false, none, ⟨6, 3, 38, 39⟩, "="⟩,
  ⟨some 35, "integer", true, some "right", ⟨6, 5, 40, 41⟩, "2"⟩,
  ⟨some 0, "expression_statement", true, none, ⟨7, 1, 42, 46⟩, "g(z)"⟩,
  ⟨some 39, "call", true, none, ⟨7, 1, 42, 46⟩, "g(z)"⟩,
  ⟨some 40, "identifier", true, some "function", ⟨7, 1, 42, 43⟩, "g"⟩,
  ⟨some 40, "argument_list", true, some "arguments", ⟨7, 2, 43, 46⟩, "(z)"⟩,
  ⟨some 42, "(", false, none, ⟨7, 2, 43, 44⟩, "("⟩,
  ⟨some 42, "identifier", true, none, ⟨7, 3, 44, 45⟩, "z"⟩,
  ⟨some 42, ")", false, none, ⟨7, 4, 45, 46⟩, ")"⟩,
  ⟨some 0, "expression_statement", true, none, ⟨8, 1, 47, 51⟩, "f(z)"⟩,
  ⟨some 46, "call", true, none, ⟨8, 1, 47, 51⟩, "f(z)"⟩,
  ⟨some 47, "identifier", true, some "function", ⟨8, 1, 47, 48⟩, "f"⟩,
  ⟨some 47, "argument_list", true, some "arguments", ⟨8, 2, 48, 51⟩, "(z)"⟩,
  ⟨some 49, "(", false, none, ⟨8, 2, 48, 49⟩, "("⟩,
  ⟨some 49, "identifier", true, none, ⟨8, 3, 49, 50⟩, "z"⟩,
  ⟨some 49, ")", false, none, ⟨8, 4, 50, 51⟩, ")"⟩]
  parent_lt := by decide +kernel

set_option maxRecDepth 100000 in
/-- There may be more findings than reports, and more reports than findings. -/
theorem reports_do_not_count_findings :
    (¬ ∀ scan : Scan, scan.outcome.findings.length ≤ scan.run.reported.length) ∧
    (¬ ∀ scan : Scan, scan.run.reported.length ≤ scan.outcome.findings.length) ∧
    ¬ ∀ scan : Scan, scan.run.reported.length = scan.outcome.findings.length := by
  have hparting : (keyScan parting).run.reported.length = 1 ∧
      (keyScan parting).outcome.findings.length = 2 := by decide +kernel
  have hmeeting : (keyScan meeting).run.reported.length = 2 ∧
      (keyScan meeting).outcome.findings.length = 1 := by decide +kernel
  refine ⟨fun h => ?_, fun h => ?_, fun h => ?_⟩
  · exact absurd (h (keyScan parting)) (by omega)
  · exact absurd (h (keyScan meeting)) (by omega)
  · exact absurd (h (keyScan parting)) (by omega)

end Scan
end CryptoUsage
