import CryptoUsage.Proofs.Arena.HookRoots
import CryptoUsage.Proofs.Scan.Chaining
import CryptoUsage.Proofs.Scan.Depth

/-!
# Hooks go back to their first requesters

Whatever a hook brings about names the store under which the hook was first asked for.  A store
that a hook brought about may ask for further hooks itself, and so may the stores below it; in
every state of a scan, all that comes of them goes back to the same store, which owes nothing to a
hook.

## How it goes

The theorem is put together from two sides.

* About arenas: if links agree, and if each store that a hook brought about stands directly below
  a store whose own hook root it names, then the hook roots of all stores are what the theorem
  says.  This is proved by walking up the tree, in the file on hook roots of arenas, and does not
  mention scans.
* About scans: in every state that occurs, also in the middle of an evaluation, the links agree
  and every store that a hook brought about is so placed (`Occurs.nested`).  Each step of the work
  for a root keeps this, as a rule that is followed for a hook is followed with the origin that
  belongs to the requester.

`Scan.hook_roots_are_first_requesters` reads the first at the states of the second.  The statement
is about the stores at hand, so it also covers those that are thrown away later.

The example has a hook below a hook: the call that the first one finds asks for the second, and
what the second brings about goes back to the store that asked for the first.
-/

set_option autoImplicit false

namespace CryptoUsage
namespace Scan

/-- **Hook roots are the first requesters**, in every state of a scan.  The hook root of a store
that a hook brought about is further up in the same tree, and neither it nor anything above it owes
anything to a hook: it is the parent of the store furthest up that a hook brought about.  Everything
below shares the hook root, and a hook root is its own hook root. -/
theorem hook_roots_are_first_requesters (scan : Scan) {s : ScanState} (hoccurs : scan.Occurs s) :
    (∀ c store origin, s.stores.store? c = some store → store.hook = some origin →
      (origin.hookRoot ∈ s.stores.ancestry c ∧ origin.hookRoot ≠ c ∧
        ∃ first, s.stores.store? origin.hookRoot = some first ∧ first.root = store.root) ∧
      (∀ j ∈ s.stores.ancestry origin.hookRoot, ∀ above, s.stores.store? j = some above →
        above.hook = none) ∧
      (∃ t ∈ s.stores.ancestry c, ∃ top i, s.stores.store? t = some top ∧ top.hook ≠ none ∧
        top.parent = some (origin.hookRoot, i)) ∧
      ∀ d below, s.stores.store? d = some below → c ∈ s.stores.ancestry d →
        s.stores.hookRoot d = origin.hookRoot ∧
          ∀ origin', below.hook = some origin' → origin'.hookRoot = origin.hookRoot) ∧
    ∀ x, s.stores.hookRoot (s.stores.hookRoot x) = s.stores.hookRoot x := by
  obtain ⟨hs, -⟩ := hoccurs.nested
  have h := hs.linked
  have hh := hs.rooted
  refine ⟨fun c store origin hc hhook => ?_, h.hookRoot_hookRoot hh⟩
  obtain ⟨p, i, hpar, hback⟩ := hh hc hhook
  obtain ⟨hlt, above, habove, -⟩ := h.parent hc hpar
  obtain ⟨hmem, hfree⟩ := h.hookRoot_mem_ancestry hh habove
  rw [← hback] at hmem hfree
  have hup := h.mem_ancestry_of_parent hc hpar hmem
  obtain ⟨hle, -⟩ := h.of_mem_ancestry habove hmem
  obtain ⟨-, hfirst⟩ := h.of_mem_ancestry hc hup
  refine ⟨⟨hup, Nat.ne_of_lt (Nat.lt_of_le_of_lt hle hlt), hfirst⟩, fun j hj above hj' => ?_,
    hh.exists_first h hc hhook, fun d below hd hbelow => ?_⟩
  · have hnone := hfree j hj
    rwa [Arena.origin?, hj', Option.bind_some] at hnone
  · have hroot := h.hookRoot_of_mem_ancestry hh hc hhook hd hbelow
    exact ⟨hroot, fun origin' hhook' => (h.hookRoot_of_hook hd hhook').symm.trans hroot⟩

/-! ### A hook below a hook

The argument of `g` is waited for at the calls of `f`, on behalf of the store for the call of `g`.
The call of `h` that comes there gets a store below it, and that store waits for the calls of `k` in
turn.

    def f(x):
        g(x)
    def k(y):
        f(h(y))
    k(e(1))
-/

namespace Relayed

open TwoInARow (ruleFor)

/-- The nodes of the program. -/
def nodes : Array SyntaxNode := #[
  ⟨none, "module", true, none, ⟨1, 1, 0, 49⟩,
    "def f(x):\n    g(x)\ndef k(y):\n    f(h(y))\nk(e(1))\n"⟩,
  ⟨some 0, "function_definition", true, none, ⟨1, 1, 0, 18⟩, "def f(x):\n    g(x)"⟩,
  ⟨some 1, "def", false, none, ⟨1, 1, 0, 3⟩, "def"⟩,
  ⟨some 1, "identifier", true, some "name", ⟨1, 5, 4, 5⟩, "f"⟩,
  ⟨some 1, "parameters", true, some "parameters", ⟨1, 6, 5, 8⟩, "(x)"⟩,
  ⟨some 4, "(", false, none, ⟨1, 6, 5, 6⟩, "("⟩,
  ⟨some 4, "identifier", true, none, ⟨1, 7, 6, 7⟩, "x"⟩,
  ⟨some 4, ")", false, none, ⟨1, 8, 7, 8⟩, ")"⟩,
  ⟨some 1, ":", false, none, ⟨1, 9, 8, 9⟩, ":"⟩,
  ⟨some 1, "block", true, some "body", ⟨2, 5, 14, 18⟩, "g(x)"⟩,
  ⟨some 9, "expression_statement", true, none, ⟨2, 5, 14, 18⟩, "g(x)"⟩,
  ⟨some 10, "call", true, none, ⟨2, 5, 14, 18⟩, "g(x)"⟩,
  ⟨some 11, "identifier", true, some "function", ⟨2, 5, 14, 15⟩, "g"⟩,
  ⟨some 11, "argument_list", true, some "arguments", ⟨2, 6, 15, 18⟩, "(x)"⟩,
  ⟨some 13, "(", false, none, ⟨2, 6, 15, 16⟩, "("⟩,
  ⟨some 13, "identifier", true, none, ⟨2, 7, 16, 17⟩, "x"⟩,
  ⟨some 13, ")", false, none, ⟨2, 8, 17, 18⟩, ")"⟩,
  ⟨some 0, "function_definition", true, none, ⟨3, 1, 19, 40⟩, "def k(y):\n    f(h(y))"⟩,
  ⟨some 17, "def", false, none, ⟨3, 1, 19, 22⟩, "def"⟩,
  ⟨some 17, "identifier", true, some "name", ⟨3, 5, 23, 24⟩, "k"⟩,
  ⟨some 17, "parameters", true, some "parameters", ⟨3, 6, 24, 27⟩, "(y)"⟩,
  ⟨some 20, "(", false, none, ⟨3, 6, 24, 25⟩, "("⟩,
  ⟨some 20, "identifier", true, none, ⟨3, 7, 25, 26⟩, "y"⟩,
  ⟨some 20, ")", false, none, ⟨3, 8, 26, 27⟩, ")"⟩,
  ⟨some 17, ":", false, none, ⟨3, 9, 27, 28⟩, ":"⟩,
  ⟨some 17, "block", true, some "body", ⟨4, 5, 33, 40⟩, "f(h(y))"⟩,
  ⟨some 25, "expression_statement", true, none, ⟨4, 5, 33, 40⟩, "f(h(y))"⟩,
  ⟨some 26, "call", true, none, ⟨4, 5, 33, 40⟩, "f(h(y))"⟩,
  ⟨some 27, "identifier", true, some "function", ⟨4, 5, 33, 34⟩, "f"⟩,
  ⟨some 27, "argument_list", true, some "arguments", ⟨4, 6, 34, 40⟩, "(h(y))"⟩,
  ⟨some 29, "(", false, none, ⟨4, 6, 34, 35⟩, "("⟩,
  ⟨some 29, "call", true, none, ⟨4, 7, 35, 39⟩, "h(y)"⟩,
  ⟨some 31, "identifier", true, some "function", ⟨4, 7, 35, 36⟩, "h"⟩,
  ⟨some 31, "argument_list", true, some "arguments", ⟨4, 8, 36, 39⟩, "(y)"⟩,
  ⟨some 33, "(", false, none, ⟨4, 8, 36, 37⟩, "("⟩,
  ⟨some 33, "identifier", true, none, ⟨4, 9, 37, 38⟩, "y"⟩,
  ⟨some 33, ")", false, none, ⟨4, 10, 38, 39⟩, ")"⟩,
  ⟨some 29, ")", false, none, ⟨4, 11, 39, 40⟩, ")"⟩,
  ⟨some 0, "expression_statement", true, none, ⟨5, 1, 41, 48⟩, "k(e(1))"⟩,
  ⟨some 38, "call", true, none, ⟨5, 1, 41, 48⟩, "k(e(1))"⟩,
  ⟨some 39, "identifier", true, some "function", ⟨5, 1, 41, 42⟩, "k"⟩,
  ⟨some 39, "argument_list", true, some "arguments", ⟨5, 2, 42, 48⟩, "(e(1))"⟩,
  ⟨some 41, "(", false, none, ⟨5, 2, 42, 43⟩, "("⟩,
  ⟨some 41, "call", true, none, ⟨5, 3, 43, 47⟩, "e(1)"⟩,
  ⟨some 43, "identifier", true, some "function", ⟨5, 3, 43, 44⟩, "e"⟩,
  ⟨some 43, "argument_list", true, some "arguments", ⟨5, 4, 44, 47⟩, "(1)"⟩,
  ⟨some 45, "(", false, none, ⟨5, 4, 44, 45⟩, "("⟩,
  ⟨some 45, "integer", true, none, ⟨5, 5, 45, 46⟩, "1"⟩,
  ⟨some 45, ")", false, none, ⟨5, 6, 46, 47⟩, ")"⟩,
  ⟨some 41, ")", false, none, ⟨5, 7, 47, 48⟩, ")"⟩]

/-- The scan of the program for calls of `g`: with calls of `h` as the argument, and with calls of
`e` as the argument of these. -/
def relay : Scan where
  catalog :=
    { rules := #[ruleFor "e" (.detectable .keyBits), ruleFor "h" (.depending [0]),
        ruleFor "g" (.depending [1])]
      earlier := by decide +kernel }
  roots := [2]
  unit :=
    { language := .python
      filePath := "m.py"
      tree := { nodes, parent_lt := by decide +kernel } }

end Relayed

open Relayed in
set_option maxRecDepth 100000 in
/-- The store for the call of `e` goes back to that for the call of `g`, like the one between. -/
theorem relayed_hook_goes_back_to_first : relay.Occurs (relay.after 50) ∧
    ∃ near far origin origin', (relay.after 50).stores.store? 1 = some near ∧
      near.hook = some origin ∧ (relay.after 50).stores.store? 2 = some far ∧
      far.hook = some origin' ∧ 1 ∈ (relay.after 50).stores.ancestry 2 ∧
      origin.trigger = 27 ∧ origin'.trigger = 39 ∧ origin.hookRoot = 0 ∧
      origin'.hookRoot = origin.hookRoot := by
  have hoccurs : relay.Occurs (relay.after 50) := .before (.meets 50)
  obtain ⟨near, hnear, hhook⟩ : ∃ near, (relay.after 50).stores.store? 1 = some near ∧
      near.hook = some { trigger := 27, hookRoot := 0 } :=
    ⟨((relay.after 50).stores.store? 1).get (by decide +kernel), by simp, by decide +kernel⟩
  obtain ⟨far, origin, hfar, hhook', htrigger⟩ : ∃ far origin,
      (relay.after 50).stores.store? 2 = some far ∧ far.hook = some origin ∧
        origin.trigger = 39 :=
    ⟨((relay.after 50).stores.store? 2).get (by decide +kernel), ⟨39, 0⟩, by simp,
      by decide +kernel, rfl⟩
  have habove : 1 ∈ (relay.after 50).stores.ancestry 2 := by decide +kernel
  obtain ⟨-, -, -, hshared⟩ :=
    (hook_roots_are_first_requesters relay hoccurs).1 1 near _ hnear hhook
  exact ⟨hoccurs, near, far, _, origin, hnear, hhook, hfar, hhook', habove, rfl, htrigger, rfl,
    (hshared 2 far hfar habove).2 origin hhook'⟩

end Scan
end CryptoUsage
