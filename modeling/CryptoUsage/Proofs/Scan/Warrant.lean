import CryptoUsage.Proofs.Arena.Ancestry
import CryptoUsage.Proofs.Hooks.Registration
import CryptoUsage.Scan.Run

/-!
# Why a store is there

A store below another one is there because the rule of the upper one, at the site it matched, says
that another rule is to be followed.  This file states the reasons, apart from the order in which
a scan comes to them:

* `Awaits` — which hook an argument of a matched site leads to: the argument is a parameter of a
  method, or what is handed to such a parameter is again a parameter of a further method;
* `Supplies` — the argument from which depending rules are followed, which is that of the site or,
  for a store that a hook brought about, that of the call that fired the hook;
* `Leads` — the sites to which following a rule leads;
* `Requests` — what an observer may wait for, and on which hook.

None of them mentions the evaluation.  They are relations over the unit, the rules and the
arguments of sites, and only `Matched` and `Requests` look at a state, for the store that took a
site for its rule.  Both go on holding while arenas grow (`Matched.grows`, `Requests.grows`),
because a store that matched keeps its rule and its site.

A hook on a method compares calls with the matcher that the unit gives for the method (`Offers`).
So two hooks of one unit for the same target are the same in every respect
(`Offers.eq_of_sameTarget`): an observer that joins a hook which is there already waits on the
hook it asked for.
-/

set_option autoImplicit false

namespace CryptoUsage

namespace CompilationUnit

variable (u : CompilationUnit)

/-- A hook on a method compares calls with the matcher that the unit gives for the method. -/
def Offers : HookKind → Prop
  | .parameter method matcher _ | .result method matcher => u.methodMatcher? method = some matcher
  | .enum _ => True

variable {u}

/-- Two hooks of the unit for the same target are of the same kind in every respect. -/
theorem Offers.eq_of_sameTarget {kind kind' : HookKind} (h : u.Offers kind) (h' : u.Offers kind')
    (htarget : kind.sameTarget kind' = true) : kind = kind' := by
  cases kind <;> cases kind' <;> simp_all [HookKind.sameTarget, Offers]

theorem node_of_site? {n : NodeId} {site : Site} (h : u.site? n = some site) : site.node = n := by
  rw [site?] at h
  split at h
  · rw [Java.site?] at h
    split at h
    · cases h; rfl
    · cases h; rfl
    · obtain ⟨_, -, rfl⟩ := Option.map_eq_some_iff.mp h
      rfl
    · cases h
  · rw [Python.site?] at h
    split at h
    · cases h; rfl
    · cases h

end CompilationUnit

namespace Scan

variable (scan : Scan)

/-- Inside its parentheses and casts, an argument is a parameter of a method. -/
def IsParameterOf (argument method : NodeId) (place : Nat) : Prop :=
  ∃ symbol, scan.unit.expression (scan.unwrap argument) = .variable symbol ∧
    symbol.kind = .parameter ∧ scan.unit.parameterPosition? symbol = some (method, place)

/-- The hooks to which a parameter handed on as an argument of a site leads. -/
inductive Awaits (site : Site) (position : Nat) : HookKind → Prop
  /-- The argument is a parameter of a method. -/
  | first {argument method : NodeId} {place : Nat} {matcher : MethodMatcher}
      (argument_eq : scan.argument? site position = some argument)
      (isParameter : scan.IsParameterOf argument method place)
      (matcher_eq : scan.unit.methodMatcher? method = some matcher) :
      Awaits site position (.parameter method matcher place)
  /-- A call hands a parameter of its own method on to the parameter awaited. -/
  | onward {argument method method' : NodeId} {place place' : Nat}
      {matcher matcher' : MethodMatcher} {trigger : Site}
      (awaits : Awaits site position (.parameter method matcher place))
      (fires : (HookKind.parameter method matcher place).fires scan.unit trigger = true)
      (argument_eq : scan.argument? trigger place = some argument)
      (isParameter : scan.IsParameterOf argument method' place')
      (matcher_eq : scan.unit.methodMatcher? method' = some matcher') :
      Awaits site position (.parameter method' matcher' place')

/-- The argument from which depending rules are followed for an argument of a matched site. -/
inductive Supplies (site : Site) (position : Nat) : Option HookOrigin → NodeId → Prop
  | direct {argument : NodeId} (argument_eq : scan.argument? site position = some argument) :
      Supplies site position none argument
  /-- A call fired a hook to which the argument led, and has an argument at the hook's position. -/
  | hooked {argument method : NodeId} {place : Nat} {matcher : MethodMatcher} {trigger : Site}
      {origin : HookOrigin} (awaits : scan.Awaits site position (.parameter method matcher place))
      (trigger_eq : scan.unit.site? origin.trigger = some trigger)
      (fires : (HookKind.parameter method matcher place).fires scan.unit trigger = true)
      (argument_eq : scan.argument? trigger place = some argument) :
      Supplies site position (some origin) argument

/-- Following a rule from an argument leads to a site: the argument itself if it is a call, and the
sites that act on it within its scope if it is a variable. -/
inductive Reaches (argument : NodeId) (found : Site) : Prop
  | call {site : Site} (isCall : scan.unit.expression (scan.unwrap argument) = .call site)
      (found_eq : scan.unit.site? (scan.unwrap argument) = some found)
  | variable {symbol : Symbol}
      (isVariable : scan.unit.expression (scan.unwrap argument) = .variable symbol)
      (notParameter : symbol.kind ≠ .parameter)
      (inScope : found ∈ scan.unit.sitesIn (scan.unit.symbolScope symbol))
      (admitted : (Trace.on symbol).admits (scan.binding found) = true)

/-- A rule is followed from the site that another rule matched, under the given index. -/
inductive Follows (above : Rule) (site : Site) : Int → RuleId → Option HookOrigin → Prop
  | next {rule : RuleId} (isNext : rule ∈ above.next)
      (notArgument : scan.isArgument site.node = false) : Follows above site methodLevel rule none
  | depending {position : Nat} {parameter : Parameter} {rules : List RuleId} {rule : RuleId}
      {origin : Option HookOrigin} {argument : NodeId}
      (parameter_eq : above.parameters[position]? = some parameter)
      (role_eq : parameter.role = .depending rules) (isDepending : rule ∈ rules)
      (supplied : scan.Supplies site position origin argument) :
      Follows above site position rule origin

/-- Following a rule from the site that another rule matched leads to a site. -/
inductive Leads (above : Rule) (site : Site) : Int → RuleId → Option HookOrigin → Site → Prop
  | next {rule : RuleId} {found : Site} (isNext : rule ∈ above.next)
      (notArgument : scan.isArgument site.node = false)
      (inScope : found ∈ scan.unit.sitesIn (scan.unit.enclosingScope site.node))
      (admitted : (scan.nextTrace site).admits (scan.binding found) = true) :
      Leads above site methodLevel rule none found
  | depending {position : Nat} {parameter : Parameter} {rules : List RuleId} {rule : RuleId}
      {origin : Option HookOrigin} {argument : NodeId} {found : Site}
      (parameter_eq : above.parameters[position]? = some parameter)
      (role_eq : parameter.role = .depending rules) (isDepending : rule ∈ rules)
      (supplied : scan.Supplies site position origin argument)
      (reached : scan.Reaches argument found) :
      Leads above site position rule origin found

variable {scan}

theorem Leads.follows {above : Rule} {site found : Site} {index : Int} {rule : RuleId}
    {origin : Option HookOrigin} (h : scan.Leads above site index rule origin found) :
    scan.Follows above site index rule origin := by
  cases h with
  | next isNext notArgument _ _ => exact .next isNext notArgument
  | depending hp hrole hrule hsupplied _ => exact .depending hp hrole hrule hsupplied

variable (scan)

/-! ## Stores that matched -/

/-- A store of the tree of a root has claimed a site for its rule. -/
structure Matched (s : ScanState) (root id : StoreId) (ruleId : RuleId) (rule : Rule)
    (site : Site) : Prop where
  rule_eq : scan.catalog.rule? ruleId = some rule
  store_eq : ∃ store, s.stores.store? id = some store ∧ store.root = root ∧ store.rule = ruleId ∧
    store.site = some site

/-- What an observer that waits on a hook may ask for, given the parameter at a position of the rule
that its requester matched. -/
def PayloadFits (ruleId : RuleId) (site : Site) (position : Nat) (parameter : Parameter)
    (kind : HookKind) : HookPayload → Prop
  | .value index id factory moveUnder =>
    index = position ∧ id = ⟨ruleId, position⟩ ∧ parameter.role = .detectable factory ∧
      parameter.moveUnder = moveUnder
  | .follow index rules =>
    index = position ∧ parameter.role = .depending rules ∧ scan.Awaits site position kind

/-- An observer waits for something that a parameter of the rule of its requester asks for. -/
def Requests (s : ScanState) (kind : HookKind) (observer : Observer) : Prop :=
  scan.unit.Offers kind ∧ observer.registeredAt ≤ s.position ∧
    observer.chain ≤ scan.config.maxHookChain ∧
    ∃ ruleId rule site position parameter,
      scan.Matched s observer.root observer.requester ruleId rule site ∧
        rule.parameters[position]? = some parameter ∧
        scan.PayloadFits ruleId site position parameter kind observer.payload

variable {scan}

theorem Matched.grows {s s' : ScanState} {root id : StoreId} {ruleId : RuleId} {rule : Rule}
    {site : Site} (h : scan.Matched s root id ruleId rule site) (hg : s.stores.Grows s'.stores) :
    scan.Matched s' root id ruleId rule site := by
  obtain ⟨hrule, store, hid, hroot, hid', hsite⟩ := h
  obtain ⟨store', hstore', hgrows⟩ := hg hid
  exact ⟨hrule, store', hstore', hgrows.root.trans hroot, hgrows.rule.trans hid',
    hgrows.site hsite⟩

theorem Requests.grows {s s' : ScanState} {kind : HookKind} {observer : Observer}
    (h : scan.Requests s kind observer) (hg : s.stores.Grows s'.stores)
    (hposition : s.position ≤ s'.position) : scan.Requests s' kind observer := by
  obtain ⟨hoffers, hat, hchain, ruleId, rule, site, position, parameter, hmatched, hrest⟩ := h
  exact ⟨hoffers, Nat.le_trans hat hposition, hchain, ruleId, rule, site, position, parameter,
    hmatched.grows hg, hrest⟩

end Scan

end CryptoUsage
