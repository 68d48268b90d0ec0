import CryptoUsage.Proofs.Scan.Soundness

/-!
# There is a reason for every store

Stores are made along five paths: a root rule is tried, a next rule is followed, a depending rule
is followed, a hook brings a rule about, and a rule that takes a second site makes a sibling.  A
value that is moved makes one more.  They are written to along these paths as well.  What the
steps of the work for a root keep about them (`HasReason`) is put here into the words of the
rules: which rule matched which site, and how the rule and the site above lead there.

The result is `stores_have_reasons`, which speaks of any number of nodes and of all rules, sites
and units.

## How it goes

That every store has a reason is a part of soundness, and so holds of each state between two nodes
(`sound_after`).  What is left is to read it off in each of its cases:

* A store with a site was given it by its rule, which matches there; the store above it was
  matched too (`Matched.exists_store`), and the path that led to the lower site is one of those of
  `Leads`.
* For a next rule of a call whose result is kept in a variable, the trace admits only sites bound
  to the same variable.  This is read off the trace that next rules are followed with
  (`Leads.bound_eq`).
* A store without a site either is for a rule that was followed and has not matched, and then it
  is blank, or it holds one value that was moved there, and nothing else.
-/

set_option autoImplicit false

namespace CryptoUsage
namespace Scan

variable {scan : Scan} {s : ScanState}

/-- The rules that are followed from a site bound to a variable lead to sites bound to it. -/
theorem Leads.bound_eq {above : Rule} {site found : Site} {index : Int} {rule : RuleId}
    {origin : Option HookOrigin} (h : scan.Leads above site index rule origin found)
    (hindex : index = methodLevel) {v : Symbol} (hbound : (scan.binding site).bound = some v) :
    ∃ w, (scan.binding found).bound = some w ∧ w.same v = true := by
  cases h with
  | next isNext notArgument inScope admitted =>
    have htrace : scan.nextTrace site = .on v := by
      simp only [nextTrace, notArgument, hbound, Bool.false_eq_true, if_false]
    rw [htrace, Trace.admits, Option.any_eq_true] at admitted
    exact admitted
  | @depending position => exact absurd hindex (by simp [methodLevel])

/-- The store above one that is there for a reason has matched a site for its rule. -/
theorem Matched.exists_store {root id : StoreId} {ruleId : RuleId} {rule : Rule} {site : Site}
    (h : scan.Matched s root id ruleId rule site) :
    ∃ store, s.stores.store? id = some store ∧ store.rule = ruleId ∧
      scan.catalog.rule? store.rule = some rule ∧ store.site = some site := by
  obtain ⟨hrule, store, hid, -, rfl, hsite⟩ := h
  exact ⟨store, hid, rfl, hrule, hsite⟩

/-- **Every store is there for a reason**, after any number of nodes.

A store that has a site has one that its rule matches.  If it stands below another store, that one
has a site too, and from there following the lower rule under the index at which the store is filed
leads to the lower site; in particular the next rules of a site that is bound to a variable lead to
sites bound to it.

A store below another one that has no site is there for a rule that was followed and has not
matched, and then nothing was detected for it; or it holds a value that a parameter of the rule
above asks to be moved to its index, and nothing else. -/
theorem stores_have_reasons (scan : Scan) (count : Nat) :
    (∀ id store found, (scan.after count).stores.store? id = some store →
      store.site = some found →
      (∃ rule, scan.catalog.rule? store.rule = some rule ∧
        rule.matcher.matches scan.unit found (rule.matchContext scan.config.matchSubtypes) =
          true) ∧
      ∀ p i, store.parent = some (p, i) →
        ∃ above rule site, (scan.after count).stores.store? p = some above ∧
          scan.catalog.rule? above.rule = some rule ∧ above.site = some site ∧
          scan.Leads rule site i store.rule store.hook found ∧
          (i = methodLevel → ∀ v, (scan.binding site).bound = some v →
            ∃ w, (scan.binding found).bound = some w ∧ w.same v = true)) ∧
    (∀ id store p i, (scan.after count).stores.store? id = some store → store.site = none →
      store.parent = some (p, i) →
        ∃ above rule site, (scan.after count).stores.store? p = some above ∧
          scan.catalog.rule? above.rule = some rule ∧ above.site = some site ∧
          ((scan.Follows rule site i store.rule store.hook ∧
              store.values = [] ∧ store.action = none ∧ store.children = []) ∨
            ∃ (position : Nat) (parameter : Parameter) (factory : ValueFactory)
              (value : DetectedValue), rule.parameters[position]? = some parameter ∧
              parameter.role = .detectable factory ∧ parameter.moveUnder = some i ∧
              store.rule = above.rule ∧ store.values = [((position : Int), [value])] ∧
              store.action = none ∧ store.children = [])) := by
  have hs := (sound_after scan count).explained
  constructor
  · intro id store found hid hfound
    cases hs.stores hid with
    | tried parent_eq claimed =>
      refine ⟨claimed hfound, fun p i hpar => ?_⟩
      rw [parent_eq] at hpar
      cases hpar
    | followed parent_eq matched follows claimed blank =>
      obtain ⟨hfits, hleads⟩ := claimed hfound
      refine ⟨hfits, fun p i hpar => ?_⟩
      obtain ⟨rfl, rfl⟩ := Prod.mk.inj (Option.some.inj (parent_eq.symm.trans hpar))
      obtain ⟨above, habove, -, hrule, hsite⟩ := matched.exists_store
      exact ⟨above, _, _, habove, hrule, hsite, hleads, fun hi _ hbound =>
        hleads.bound_eq hi hbound⟩
    | moved _ _ _ _ _ unclaimed =>
      rw [hfound] at unclaimed
      cases unclaimed
  · intro id store p i hid hnone hpar
    cases hs.stores hid with
    | tried parent_eq claimed =>
      rw [parent_eq] at hpar
      cases hpar
    | followed parent_eq matched follows claimed blank =>
      obtain ⟨rfl, rfl⟩ := Prod.mk.inj (Option.some.inj (parent_eq.symm.trans hpar))
      obtain ⟨above, habove, -, hrule, hsite⟩ := matched.exists_store
      have hblank := blank hnone
      exact ⟨above, _, _, habove, hrule, hsite,
        .inl ⟨follows, hblank.values, hblank.action, hblank.children⟩⟩
    | moved parent_eq matched parameter_eq role_eq target_eq unclaimed values_eq children_eq
        action_eq =>
      obtain ⟨rfl, rfl⟩ := Prod.mk.inj (Option.some.inj (parent_eq.symm.trans hpar))
      obtain ⟨above, habove, hruleId, hrule, hsite⟩ := matched.exists_store
      exact ⟨above, _, _, habove, hrule, hsite, .inr ⟨_, _, _, _, parameter_eq, role_eq, target_eq,
        hruleId.symm, values_eq, action_eq, children_eq⟩⟩

end Scan
end CryptoUsage
