import CryptoUsage.Proofs.FrontEnd.Arguments
import CryptoUsage.Proofs.Scan.Soundness

/-!
# Results that are handed to another call

The result of a call may be an argument of another call, inside parentheses and casts.  The rules
that come next are not followed then, as nothing else can act on the result.

Whether it is such an argument is looked for close above the call only.  That is far enough for an
argument inside one wrapper, and for the value of a named argument without any (`isArgument_iff`),
and no other call is ever taken for an argument; but with more wrappers around it the call to
which the result is handed is out of reach (`not_every_argument_is_told`).

## How it goes

* Distances.  `IsHanded` says of a node that it is an argument of a call inside so many wrappers,
  which is looking down from the call.  Looked at from below, the call stands above the wrappers,
  the argument list and, for a named argument, the node that has the name; `IsHanded.mem_take_iff`
  counts these, so that the call is among the nearest ancestors exactly if there are few enough.
* The test.  The arguments of a call, unwrapped, are the nodes that the test compares with, and an
  argument that unwraps to the node is one that it is handed on as.
* What follows from it.  If a result is handed on then nothing is traced from it, so no next rule
  is followed (`Follows.notArgument`).  As every store has a reason, what is found below such a
  store at the level of the call can only be a value that a parameter asked to be moved there
  (`not_mem_children_of_different`).
-/

set_option autoImplicit false

namespace CryptoUsage
namespace Scan

variable (scan : Scan)

/-- The node is an argument of a call, inside no more wrappers than are looked through. -/
structure IsHanded (node : NodeId) (call : Site) (argument : NodeId) (count : Nat) : Prop where
  isSite : scan.unit.site? call.node = some call
  isArgument : argument ∈ scan.unit.arguments call
  encloses : scan.unit.Encloses count argument node
  count_le : count ≤ scan.config.maxResolutionDepth

variable {scan} {node argument : NodeId} {call site : Site} {count : Nat}

/-- The call stands above the wrappers, the argument list and the name, if it has one. -/
theorem IsHanded.mem_take_iff (h : scan.IsHanded node call argument count) (reach : Nat) :
    call.node ∈ (scan.unit.tree.ancestors node).take reach ↔
      count + 1 + (scan.unit.isNamedArgument call argument).toNat < reach := by
  obtain ⟨wrappers, hwrappers, heq⟩ := h.encloses.ancestors_eq
  obtain ⟨between, hbetween, heq'⟩ := CompilationUnit.ancestors_of_mem_arguments h.isArgument
  rw [heq', ← List.append_assoc] at heq
  rw [SyntaxTree.mem_take_ancestors_iff heq, List.length_append, hwrappers, hbetween,
    Nat.add_assoc]

/-- A site is taken for an argument exactly if it is one inside at most one wrapper, and inside none
if it is given by name. -/
theorem isArgument_iff (hsite : scan.unit.site? site.node = some site) :
    scan.isArgument site.node = true ↔ ∃ call argument count,
      scan.IsHanded site.node call argument count ∧
        count + (scan.unit.isNamedArgument call argument).toNat ≤ 1 := by
  rw [isArgument, List.any_eq_true]
  constructor
  · rintro ⟨call, hcall, hany⟩
    obtain ⟨n, hreach, hcall⟩ := List.mem_filterMap.mp hcall
    obtain ⟨argument, hargument, hunwrap⟩ := List.any_eq_true.mp hany
    obtain ⟨count, hle, hencloses⟩ :=
      CompilationUnit.exists_encloses scan.unit scan.config.maxResolutionDepth argument
    obtain rfl := CompilationUnit.node_of_site? hcall
    have hinner : scan.unit.unwrapWithin scan.config.maxResolutionDepth argument = site.node :=
      beq_iff_eq.mp hunwrap
    have h : scan.IsHanded site.node call argument count :=
      ⟨hcall, hargument, hinner ▸ hencloses, hle⟩
    have hlt := (h.mem_take_iff argumentReach).mp hreach
    exact ⟨call, argument, count, h, by rw [argumentReach] at hlt; omega⟩
  · rintro ⟨call, argument, count, h, hle⟩
    have hreach : call.node ∈ (scan.unit.tree.ancestors site.node).take argumentReach :=
      (h.mem_take_iff argumentReach).mpr (by rw [argumentReach]; omega)
    have hunwrap : scan.unwrap argument = site.node := h.encloses.unwrapWithin_eq
      (CompilationUnit.expression_ne_wrapped_of_site? hsite) h.count_le
    refine ⟨call, List.mem_filterMap.mpr ⟨_, hreach, h.isSite⟩, ?_⟩
    exact List.any_eq_true.mpr ⟨argument, h.isArgument, beq_iff_eq.mpr hunwrap⟩

theorem nextTrace_eq_different_iff :
    scan.nextTrace site = .different ↔ scan.isArgument site.node = true := by
  rw [nextTrace]
  split
  · next hargument => simp [hargument]
  · next hnot =>
    constructor
    · intro h
      split at h <;> cases h
    · exact fun hargument => absurd hargument hnot

/-- What is followed at the level of a call is followed from a result that is not handed on. -/
theorem Follows.notArgument {above : Rule} {rule : RuleId} {hook : Option HookOrigin}
    (h : scan.Follows above site methodLevel rule hook) : scan.isArgument site.node = false := by
  generalize hlevel : methodLevel = level at h
  cases h with
  | next isNext notArgument => exact notArgument
  | depending =>
    -- the positions of parameters are no negative numbers
    rw [methodLevel] at hlevel
    omega

/-- If its result is handed on, a store has only moved values below it at the level of the call. -/
theorem not_mem_children_of_different {s : ScanState} (hs : scan.Explained s) {id : StoreId}
    {store : Store} {rule : Rule} (hid : s.stores.store? id = some store)
    (hsite : store.site = some site) (hrule : scan.catalog.rule? store.rule = some rule)
    (hmoves : ∀ parameter ∈ rule.parameters, parameter.moveUnder ≠ some methodLevel)
    (hdifferent : scan.nextTrace site = .different) (child : StoreId) :
    child ∉ Slots.at store.children methodLevel := by
  intro hmem
  obtain ⟨below, hbelow, hparent⟩ := (hs.linked.child hid).mp hmem
  cases hs.stores hbelow with
  | tried parent_eq =>
    rw [parent_eq] at hparent
    cases hparent
  | @followed p _ i _ at_ parent_eq matched follows =>
    obtain ⟨rfl, rfl⟩ : p = id ∧ i = methodLevel :=
      Prod.mk.inj (Option.some.inj (parent_eq.symm.trans hparent))
    obtain rfl : at_ = site := Option.some.inj ((matched.site_eq hid).symm.trans hsite)
    cases (nextTrace_eq_different_iff.mp hdifferent).symm.trans follows.notArgument
  | @moved p i above at_ position parameter _ _ parent_eq matched parameter_eq role_eq target_eq =>
    obtain ⟨rfl, rfl⟩ : p = id ∧ i = methodLevel :=
      Prod.mk.inj (Option.some.inj (parent_eq.symm.trans hparent))
    obtain rfl : above = rule := Option.some.inj ((matched.rule?_eq hid).symm.trans hrule)
    exact hmoves parameter (List.mem_of_getElem? parameter_eq) target_eq

/-- **When the result of a call counts as handed on.**  That is so exactly if the call is an
argument of another one, inside at most one wrapper, and inside none if the argument is given by
name.  Then nothing is followed from it, and nothing is ever filed below its store at the level of
the call but values that the rule moves there. -/
theorem results_are_handed_on (scan : Scan) {site : Site}
    (hsite : scan.unit.site? site.node = some site) :
    (scan.nextTrace site = .different ↔ ∃ call argument count,
      scan.IsHanded site.node call argument count ∧
        count + (scan.unit.isNamedArgument call argument).toNat ≤ 1) ∧
    (scan.nextTrace site = .different →
      (∀ evaluate id rule s, scan.followNext evaluate id rule site s = s) ∧
      ∀ {count : Nat} {id : StoreId} {store : Store} {rule : Rule},
        (scan.after count).stores.store? id = some store → store.site = some site →
        scan.catalog.rule? store.rule = some rule →
        (∀ parameter ∈ rule.parameters, parameter.moveUnder ≠ some methodLevel) →
        ∀ child, child ∉ Slots.at store.children methodLevel) := by
  refine ⟨nextTrace_eq_different_iff.trans (isArgument_iff hsite), fun hdifferent => ⟨?_, ?_⟩⟩
  · intro evaluate id rule s
    rw [followNext, hdifferent]
  · intro count id store rule hid hat hrule hmoves
    exact not_mem_children_of_different (sound_after scan count).explained hid hat hrule hmoves
      hdifferent

/-! ### A result inside two pairs of parentheses

    g((f(1)))
    g(((f(1))))
    h(2)
-/

namespace Parenthesized

/-- The nodes of the program. -/
def nodes : Array SyntaxNode := #[
  ⟨none, "module", true, none, ⟨1, 1, 0, 27⟩, "g((f(1)))\ng(((f(1))))\nh(2)\n"⟩,
  ⟨some 0, "expression_statement", true, none, ⟨1, 1, 0, 9⟩, "g((f(1)))"⟩,
  ⟨some 1, "call", true, none, ⟨1, 1, 0, 9⟩, "g((f(1)))"⟩,
  ⟨some 2, "identifier", true, some "function", ⟨1, 1, 0, 1⟩, "g"⟩,
  ⟨some 2, "argument_list", true, some "arguments", ⟨1, 2, 1, 9⟩, "((f(1)))"⟩,
  ⟨some 4, "(", false, none, ⟨1, 2, 1, 2⟩, "("⟩,
  ⟨some 4, "parenthesized_expression", true, none, ⟨1, 3, 2, 8⟩, "(f(1))"⟩,
  ⟨some 6, "(", false, none, ⟨1, 3, 2, 3⟩, "("⟩,
  ⟨some 6, "call", true, none, ⟨1, 4, 3, 7⟩, "f(1)"⟩,
  ⟨some 8, "identifier", true, some "function", ⟨1, 4, 3, 4⟩, "f"⟩,
  ⟨some 8, "argument_list", true, some "arguments", ⟨1, 5, 4, 7⟩, "(1)"⟩,
  ⟨some 10, "(", false, none, ⟨1, 5, 4, 5⟩, "("⟩,
  ⟨some 10, "integer", true, none, ⟨1, 6, 5, 6⟩, "1"⟩,
  ⟨some 10, ")", false, none, ⟨1, 7, 6, 7⟩, ")"⟩,
  ⟨some 6, ")", false, none, ⟨1, 8, 7, 8⟩, ")"⟩,
  ⟨some 4, ")", false, none, ⟨1, 9, 8, 9⟩, ")"⟩,
  ⟨some 0, "expression_statement", true, none, ⟨2, 1, 10, 21⟩, "g(((f(1))))"⟩,
  ⟨some 16, "call", true, none, ⟨2, 1, 10, 21⟩, "g(((f(1))))"⟩,
  ⟨some 17, "identifier", true, some "function", ⟨2, 1, 10, 11⟩, "g"⟩,
  ⟨some 17, "argument_list", true, some "arguments", ⟨2, 2, 11, 21⟩, "(((f(1))))"⟩,
  ⟨some 19, "(", false, none, ⟨2, 2, 11, 12⟩, "("⟩,
  ⟨some 19, "parenthesized_expression", true, none, ⟨2, 3, 12, 20⟩, "((f(1)))"⟩,
  ⟨some 21, "(", false, none, ⟨2, 3, 12, 13⟩, "("⟩,
  ⟨some 21, "parenthesized_expression", true, none, ⟨2, 4, 13, 19⟩, "(f(1))"⟩,
  ⟨some 23, "(", false, none, ⟨2, 4, 13, 14⟩, "("⟩,
  ⟨some 23, "call", true, none, ⟨2, 5, 14, 18⟩, "f(1)"⟩,
  ⟨some 25, "identifier", true, some "function", ⟨2, 5, 14, 15⟩, "f"⟩,
  ⟨some 25, "argument_list", true, some "arguments", ⟨2, 6, 15, 18⟩, "(1)"⟩,
  ⟨some 27, "(", false, none, ⟨2, 6, 15, 16⟩, "("⟩,
  ⟨some 27, "integer", true, none, ⟨2, 7, 16, 17⟩, "1"⟩,
  ⟨some 27, ")", false, none, ⟨2, 8, 17, 18⟩, ")"⟩,
  ⟨some 23, ")", false, none, ⟨2, 9, 18, 19⟩, ")"⟩,
  ⟨some 21, ")", false, none, ⟨2, 10, 19, 20⟩, ")"⟩,
  ⟨some 19, ")", false, none, ⟨2, 11, 20, 21⟩, ")"⟩,
  ⟨some 0, "expression_statement", true, none, ⟨3, 1, 22, 26⟩, "h(2)"⟩,
  ⟨some 34, "call", true, none, ⟨3, 1, 22, 26⟩, "h(2)"⟩,
  ⟨some 35, "identifier", true, some "function", ⟨3, 1, 22, 23⟩, "h"⟩,
  ⟨some 35, "argument_list", true, some "arguments", ⟨3, 2, 23, 26⟩, "(2)"⟩,
  ⟨some 37, "(", false, none, ⟨3, 2, 23, 24⟩, "("⟩,
  ⟨some 37, "integer", true, none, ⟨3, 3, 24, 25⟩, "2"⟩,
  ⟨some 37, ")", false, none, ⟨3, 4, 25, 26⟩, ")"⟩]

/-- The unit with the program. -/
def unit : CompilationUnit where
  language := .python
  filePath := "m.py"
  tree := { nodes, parent_lt := by decide +kernel }

/-- A rule for the calls of a method with a key of so many bytes, and the rules that come next. -/
def ruleFor (method : String) (next : List RuleId) : Rule where
  kind := .full
  matcher := {
    objectTypes := .any, methodNames := .oneOf [method], parameterTypes := .exactly ["*"] }
  parameters := [{ typeName := "*", role := .detectable .keyBytes }]
  next
  action := none
  bundle := "Default"
  exactType := false

/-- The scan for calls of `f`, after which calls of `h` come. -/
def results : Scan where
  catalog := { rules := #[ruleFor "h" [], ruleFor "f" [0]], earlier := by decide +kernel }
  roots := [1]
  unit := unit

/-- The call of `f` inside one pair of parentheses. -/
def once : Site := .invocation 8

/-- The call of `f` inside two pairs of parentheses. -/
def twice : Site := .invocation 25

theorem once_isHanded : results.IsHanded once.node (.invocation 2) 6 1 where
  isSite := by decide +kernel
  isArgument := by decide +kernel
  encloses := .inside (by decide +kernel) (.here 8)
  count_le := by decide

theorem twice_isHanded : results.IsHanded twice.node (.invocation 17) 21 2 where
  isSite := by decide +kernel
  isArgument := by decide +kernel
  encloses := .inside (show results.unit.expression 21 = .wrapped 23 by decide +kernel)
    (.inside (by decide +kernel) (.here 25))
  count_le := by decide

end Parenthesized

set_option maxRecDepth 100000 in
/-- From the call inside one pair of parentheses nothing is followed. -/
theorem result_in_parentheses_is_handed_on :
    let scan := Parenthesized.results
    scan.nextTrace Parenthesized.once = .different ∧
      ∃ store, (scan.after 42).stores.store? 0 = some store ∧
        store.site = some Parenthesized.once ∧ ∀ child, child ∉ Slots.at store.children methodLevel := by
  have hsite : Parenthesized.results.unit.site? Parenthesized.once.node =
      some Parenthesized.once := by decide +kernel
  obtain ⟨hiff, hnone⟩ := results_are_handed_on Parenthesized.results hsite
  have hdifferent : Parenthesized.results.nextTrace Parenthesized.once = .different :=
    hiff.mpr ⟨_, _, 1, Parenthesized.once_isHanded, by decide +kernel⟩
  obtain ⟨store, hid, hat, hrule⟩ : ∃ store,
      (Parenthesized.results.after 42).stores.store? 0 = some store ∧
        store.site = some Parenthesized.once ∧ store.rule = 1 :=
    ⟨((Parenthesized.results.after 42).stores.store? 0).get (by decide +kernel), by simp,
      by decide +kernel, by decide +kernel⟩
  have hrule' : Parenthesized.results.catalog.rule? store.rule =
      some (Parenthesized.ruleFor "f" [0]) := hrule ▸ rfl
  exact ⟨hdifferent, store, hid, hat, (hnone hdifferent).2 hid hat hrule' (by decide +kernel)⟩

set_option maxRecDepth 100000 in
/-- With more wrappers around it, a result that is handed on is not told from one that is not: the
call of `h` is taken for something that acts on the result. -/
theorem not_every_argument_is_told : ¬ ∀ (scan : Scan) (site call : Site) (argument : NodeId)
    (count : Nat), scan.unit.site? site.node = some site →
    scan.IsHanded site.node call argument count → scan.nextTrace site = .different := by
  intro h
  have hdifferent := h Parenthesized.results Parenthesized.twice _ _ _ (by decide +kernel)
    Parenthesized.twice_isHanded
  exact absurd hdifferent (by decide +kernel)

end Scan
end CryptoUsage
