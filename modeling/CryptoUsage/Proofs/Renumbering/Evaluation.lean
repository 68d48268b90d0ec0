import CryptoUsage.Proofs.Renumbering.State
import CryptoUsage.Scan.Delivery

/-!
# Evaluating rules under other numbers

To evaluate a rule in a program is the same as to evaluate it in the program under other numbers,
in a state under other numbers.  Evaluating makes new requests and notes at which position, and
looks at no position, so `π` is any function here.

As in the program, what a rule does at a site is stated given how to evaluate what is followed,
and `EvaluatesAlike` says of two evaluators that the one does in `u` what the other does in `u'`.
Each step keeps to that (`follow` to `takeSite`), so by induction on the number of rules that are
followed in a row evaluation does (`evaluate`); and so does serving an observer (`deliver`), which
is made of the same steps.

## What a step comes down to

* The object of a site.  The variable or the object that a call is bound to, whether it is an
  argument of another call, and with which trace its next rules are followed, are questions about
  nodes, and were answered for the unit.
* Values and waiting.  Readings and plans are renumbered ones, the factory makes the same values
  of them, and storing or registering is an operation on stores or hooks that is the same under
  other numbers.
* Lists.  What is done for one item after the other is the same if it is for each
  (`foldl_renumber`).  The lists are those of sites in a scope, of rules, of plans and of
  arguments.
-/

set_option autoImplicit false

namespace CryptoUsage

open Function

/-- A scanner at work on a unit. -/
abbrev Scanner.on (scanner : Scanner) (unit : CompilationUnit) : Scan := { scanner with unit }

variable {ρ : NodeId → NodeId} {π : Nat → Nat} {u u' : CompilationUnit}

/-- The one evaluator does what the other does, under other numbers. -/
def EvaluatesAlike (ρ : NodeId → NodeId) (π : Nat → Nat) (evaluate' evaluate : Evaluator) : Prop :=
  ∀ s id trace site, evaluate (s.renumber ρ π) id (Trace.renumber ρ trace) (Site.renumber ρ site) =
    (evaluate' s id trace site).renumber ρ π

/-- What is done for one item after the other is the same under other numbers if it is for each. -/
theorem foldl_renumber {α β : Type} {f : α → β} {step : ScanState → β → ScanState}
    {step' : ScanState → α → ScanState}
    (hstep : ∀ s a, step (s.renumber ρ π) (f a) = (step' s a).renumber ρ π) (items : List α)
    (s : ScanState) :
    (items.map f).foldl step (s.renumber ρ π) = (items.foldl step' s).renumber ρ π := by
  rw [List.foldl_map]
  exact List.foldl_hom (ScanState.renumber ρ π) fun s a => hstep s a

namespace CompilationUnit.Renumbers

variable (h : u'.Renumbers ρ u) (scanner : Scanner)
include h

/-! ## The object of a site -/

theorem scanUnwrap (n : NodeId) :
    (scanner.on u).unwrap (ρ n) = ρ ((scanner.on u').unwrap n) := h.unwrap ..

theorem binding (site : Site) :
    (scanner.on u).binding (site.renumber ρ) = ((scanner.on u').binding site).renumber ρ := by
  simp only [Scan.binding, Site.node_renumber, h.assignedSymbol?, h.receiver?,
    Option.map_map, Function.comp_def, h.scanUnwrap, h.expression]
  cases u'.receiver? site with
  | none => rfl
  | some r =>
    simp only [Option.map_some]
    cases u'.expression ((scanner.on u').unwrap r) <;> rfl

theorem isArgument (n : NodeId) :
    (scanner.on u).isArgument (ρ n) = (scanner.on u').isArgument n := by
  have hsame (m : NodeId) : ((scanner.on u).unwrap (ρ m) == ρ n) =
      ((scanner.on u').unwrap m == n) := by
    rw [h.scanUnwrap, Bool.eq_iff_iff, beq_iff_eq, beq_iff_eq, h.injective.eq_iff]
  simp only [Scan.isArgument, h.ancestors, ← List.map_take, List.filterMap_map,
    Function.comp_def, h.site?, ← List.map_filterMap, List.any_map, h.arguments, hsame]

theorem nextTrace (site : Site) :
    (scanner.on u).nextTrace (site.renumber ρ) =
      ((scanner.on u').nextTrace site).renumber ρ := by
  simp only [Scan.nextTrace, Site.node_renumber, h.isArgument, h.binding]
  split
  · rfl
  · cases hbound : ((scanner.on u').binding site).bound <;>
      simp [Binding.renumber, hbound, Trace.renumber]

/-! ## Waiting -/

theorem hookOf? (plan : HookPlan) :
    (scanner.on u).hookOf? (plan.renumber ρ) =
      ((scanner.on u').hookOf? plan).map (Prod.map (HookKind.renumber ρ) id) := by
  cases plan with
  | enum name selections => rfl
  | parameter method index selections =>
    simp only [Scan.hookOf?, HookPlan.renumber, h.methodMatcher?, Option.map_map]
    rfl
  | result method selections =>
    simp only [Scan.hookOf?, HookPlan.renumber, h.methodMatcher?, Option.map_map]
    rfl

theorem waitFor (observer : Observer) (s : ScanState) (plan : HookPlan) :
    (scanner.on u).waitFor (observer.reposition π) (s.renumber ρ π) (plan.renumber ρ) =
      ((scanner.on u').waitFor observer s plan).renumber ρ π := by
  simp only [Scan.waitFor, h.hookOf?]
  cases (scanner.on u').hookOf? plan with
  | none => rfl
  | some hook =>
    have hregister := HookRepository.register_renumber (π := π) s.hooks h.injective hook.1
      { observer with selections := hook.2 }
    simp only [Option.map_some, Prod.map_fst, Prod.map_snd, id_eq, ScanState.hooks_renumber]
    exact congrArg (fun hooks => { s.renumber ρ π with hooks := hooks.1 }) hregister

/-! ## Values -/

theorem storeReading (id : StoreId) (index : Int) (moveUnder : Option Int) (factory : ValueFactory)
    (s : ScanState) (reading : Reading) :
    (scanner.on u).storeReading id index moveUnder factory (s.renumber ρ π) (reading.renumber ρ) =
      ((scanner.on u').storeReading id index moveUnder factory s reading).renumber ρ π := by
  simp only [Scan.storeReading, Reading.renumber, h.location,
    ScanState.stores_renumber, Arena.receiveValue_renumber, ScanState.withStores_renumber]
  split
  · rfl
  · split <;> rfl

theorem storeReadings (id : StoreId) (index : Int) (moveUnder : Option Int)
    (factory : ValueFactory) (s : ScanState) (readings : List Reading) :
    (scanner.on u).storeReadings id index moveUnder factory (s.renumber ρ π)
        (readings.map (Reading.renumber ρ)) =
      ((scanner.on u').storeReadings id index moveUnder factory s readings).renumber ρ π :=
  foldl_renumber (h.storeReading scanner id index moveUnder factory) readings s

theorem detectValue (id : StoreId) (index : Int) (moveUnder : Option Int) (factoryId : FactoryId)
    (factory : ValueFactory) (s : ScanState) (argument : NodeId) :
    (scanner.on u).detectValue id index moveUnder factoryId factory (s.renumber ρ π)
        (ρ argument) =
      ((scanner.on u').detectValue id index moveUnder factoryId factory s
        argument).renumber ρ π := by
  simp only [Scan.detectValue, h.resolveValue,
    h.planHooks]
  cases u'.resolveValue scanner.config factory [] argument with
  | nil =>
    simp only [List.map_nil, ScanState.rootOf_renumber]
    exact foldl_renumber (h.waitFor scanner
      { requester := id
        root := s.rootOf id
        payload := .value index factoryId factory moveUnder
        registeredAt := s.position }) _ s
  | cons reading readings =>
    exact h.storeReadings scanner id index moveUnder factory s (reading :: readings)

/-! ## Following rules -/

section Following

variable {evaluate evaluate' : Evaluator} (hevaluate : EvaluatesAlike ρ π evaluate' evaluate)
include hevaluate

theorem evaluateAt (trace : Trace) (n : NodeId) (s : ScanState) (id : StoreId) :
    (scanner.on u).evaluateAt evaluate (trace.renumber ρ) (ρ n) (s.renumber ρ π) id =
      ((scanner.on u').evaluateAt evaluate' trace n s id).renumber ρ π := by
  simp only [Scan.evaluateAt, h.site?, ScanState.start_renumber]
  cases u'.site? n with
  | none => rfl
  | some site => exact hevaluate ..

theorem evaluateIn (trace : Trace) (scope : NodeId) (s : ScanState) (id : StoreId) :
    (scanner.on u).evaluateIn evaluate (trace.renumber ρ) (ρ scope) (s.renumber ρ π) id =
      ((scanner.on u').evaluateIn evaluate' trace scope s id).renumber ρ π := by
  simp only [Scan.evaluateIn, h.sitesIn, ScanState.start_renumber]
  exact foldl_renumber (fun s site => hevaluate s id trace site) _ _

omit h hevaluate in
/-- Rules are followed in the same way if they are run in the same way. -/
theorem follow {run run' : ScanState → StoreId → ScanState}
    (hrun : ∀ s id, run (s.renumber ρ π) id = (run' s id).renumber ρ π) (parent : StoreId)
    (index : Int) (hook : Option HookOrigin) (rules : List RuleId) (s : ScanState) :
    rules.foldl (Scan.follow run parent index
        (hook.map fun origin => { origin with trigger := ρ origin.trigger })) (s.renumber ρ π) =
      (rules.foldl (Scan.follow run' parent index hook) s).renumber ρ π := by
  refine List.foldl_hom (ScanState.renumber ρ π) fun s rule => ?_
  simp only [Scan.follow, ScanState.stores_renumber, Arena.createChild_renumber,
    ScanState.withStores_renumber, ScanState.plan_renumber, hrun]

theorem followNext (id : StoreId) (rule : Rule) (site : Site) (s : ScanState) :
    (scanner.on u).followNext evaluate id rule (site.renumber ρ) (s.renumber ρ π) =
      ((scanner.on u').followNext evaluate' id rule site s).renumber ρ π := by
  have hfollow (trace : Trace) := follow (ρ := ρ) (π := π)
    (h.evaluateIn scanner hevaluate trace (u'.enclosingScope site.node)) id methodLevel none
    rule.next s
  simp only [Scan.followNext, h.nextTrace, Site.node_renumber, h.enclosingScope]
  cases (scanner.on u').nextTrace site with
  | different => rfl
  | start => exact hfollow .start
  | unnamed => exact hfollow .unnamed
  | «on» symbol => exact hfollow (.on symbol)

theorem followDepending (requester : StoreId) (index : Int) (rules : List RuleId)
    (origin : Option HookOrigin) (chain : Nat) (s : ScanState) (argument : NodeId) :
    (scanner.on u).followDepending evaluate requester index rules
        (origin.map fun origin => { origin with trigger := ρ origin.trigger }) chain
        (s.renumber ρ π) (ρ argument) =
      ((scanner.on u').followDepending evaluate' requester index rules origin chain s
        argument).renumber ρ π := by
  simp only [Scan.followDepending, h.scanUnwrap, h.expression]
  cases u'.expression ((scanner.on u').unwrap argument) with
  | call site => exact follow (h.evaluateAt scanner hevaluate .start _) ..
  | «variable» symbol =>
    simp only [Expression.renumber, Symbol.kind_renumber, h.parameterPosition?, h.symbolScope]
    split
    · cases u'.parameterPosition? symbol with
      | none => rfl
      | some place =>
        simp only [Option.map_some, Prod.map_fst, Prod.map_snd, id_eq, ScanState.rootOf_renumber]
        by_cases hchain : chain < scanner.config.maxHookChain
        · rw [if_pos hchain, if_pos hchain]
          exact h.waitFor scanner
            { requester
              root := s.rootOf requester
              payload := .follow index rules
              chain
              registeredAt := s.position } s (.parameter place.1 place.2 [])
        · rw [if_neg hchain, if_neg hchain]
    · exact follow (h.evaluateIn scanner hevaluate (.on symbol) _) ..
  | _ => rfl

/-! ## A rule at a site -/

omit hevaluate in
theorem takes (s : ScanState) (id : StoreId) (store : Store) (rule : Rule) (trace : Trace)
    (site : Site) :
    (scanner.on u).takes (s.renumber ρ π) id (store.renumber ρ) rule (trace.renumber ρ)
        (site.renumber ρ) =
      (scanner.on u').takes s id store rule trace site := by
  simp only [Scan.takes, h.matches_renumber,
    ScanState.stores_renumber, Store.renumber, Arena.isClaimedOnPath_renumber _ h.injective,
    h.binding, Trace.admits_renumber h.injective]
  rfl

omit hevaluate in
theorem actionOf? (rule : Rule) (site : Site) :
    (scanner.on u).actionOf? rule (site.renumber ρ) = (scanner.on u').actionOf? rule site := by
  simp only [Scan.actionOf?, h.methodName?, h.invokedObjectType?,
    Site.node_renumber, h.location]

theorem readArgument (id : StoreId) (ruleId : RuleId) (s : ScanState) (parameter : Parameter)
    (argument : NodeId) (position : Nat) :
    (scanner.on u).readArgument evaluate id ruleId (s.renumber ρ π)
        ((parameter, ρ argument), position) =
      ((scanner.on u').readArgument evaluate' id ruleId s
        ((parameter, argument), position)).renumber ρ π := by
  simp only [Scan.readArgument]
  cases parameter.role with
  | typeOnly => rfl
  | detectable factory => exact h.detectValue ..
  | depending rules => exact h.followDepending scanner hevaluate id _ rules none 0 s argument

theorem readArguments (target : StoreId) (ruleId : RuleId) (rule : Rule) (site : Site)
    (s : ScanState) :
    (scanner.on u).readArguments evaluate target ruleId rule (site.renumber ρ) (s.renumber ρ π) =
      ((scanner.on u').readArguments evaluate' target ruleId rule site s).renumber ρ π := by
  have hentries : (rule.parameters.zip (u.arguments (site.renumber ρ))).zipIdx =
      ((rule.parameters.zip (u'.arguments site)).zipIdx).map
        (Prod.map (Prod.map id ρ) id) := by
    rw [h.arguments, List.zip_map_right, List.zipIdx_map]
  simp only [Scan.readArguments, hentries]
  exact foldl_renumber (fun s entry => h.readArgument scanner hevaluate ..) _ s

theorem takeSite (s : ScanState) (id : StoreId) (ruleId : RuleId) (rule : Rule) (site : Site) :
    (scanner.on u).takeSite evaluate (s.renumber ρ π) id ruleId rule (site.renumber ρ) =
      ((scanner.on u').takeSite evaluate' s id ruleId rule site).renumber ρ π := by
  simp only [Scan.takeSite, ScanState.claim_renumber s h.injective, ScanState.stores_renumber,
    h.actionOf?, Arena.receiveMethod_renumber, ScanState.withStores_renumber,
    h.followNext scanner hevaluate, h.readArguments scanner hevaluate]
  split <;> rfl

/-- What a rule does at a site. -/
theorem evaluateBy :
    EvaluatesAlike ρ π ((scanner.on u').evaluateBy evaluate')
      ((scanner.on u).evaluateBy evaluate) := by
  intro s id trace site
  simp only [Scan.evaluateBy, ScanState.stores_renumber, Arena.store?_renumber]
  cases s.stores.store? id with
  | none => rfl
  | some store =>
    simp only [Option.map_some, h.takes, h.takeSite scanner hevaluate]
    have hrule : (store.renumber ρ).rule = store.rule := rfl
    rw [hrule]
    cases scanner.catalog.rule? store.rule with
    | none => rfl
    | some rule =>
      simp only
      split <;> rfl

end Following

theorem evaluateWithin (steps : Nat) :
    EvaluatesAlike ρ π ((scanner.on u').evaluateWithin steps)
      ((scanner.on u).evaluateWithin steps) := by
  induction steps with
  | zero => exact fun _ _ _ _ => rfl
  | succ steps ih => exact h.evaluateBy scanner ih

/-- **Evaluation does not depend on the numbers of the nodes.** -/
theorem evaluate : EvaluatesAlike ρ π (scanner.on u').evaluate (scanner.on u).evaluate :=
  h.evaluateWithin scanner scanner.catalog.size

/-! ## Serving an observer -/

theorem argument? (site : Site) (position : Nat) :
    (scanner.on u).argument? (site.renumber ρ) position =
      ((scanner.on u').argument? site position).map ρ := by
  simp only [Scan.argument?, h.arguments, List.getElem?_map]

theorem passOn (observer : Observer) (size : Bool) (argument : NodeId) (s : ScanState) :
    (scanner.on u).passOn (observer.reposition π) size (ρ argument) (s.renumber ρ π) =
      ((scanner.on u').passOn observer size argument s).renumber ρ π := by
  simp only [Scan.passOn, h.planHooks, Observer.reposition]
  by_cases hchain : scanner.config.maxHookChain < observer.chain + 1
  · rw [if_pos hchain, if_pos hchain]
  · rw [if_neg hchain, if_neg hchain]
    exact foldl_renumber (h.waitFor scanner
      { observer with chain := observer.chain + 1, registeredAt := s.position }) _ s

theorem readingsFor? (kind : HookKind) (factory : ValueFactory) (selections : List String)
    (trigger : Site) :
    (scanner.on u).readingsFor? (kind.renumber ρ) factory selections (trigger.renumber ρ) =
      ((scanner.on u').readingsFor? kind factory selections trigger).map
        (Prod.map (List.map (Reading.renumber ρ)) (Option.map ρ)) := by
  cases kind with
  | parameter method matcher index =>
    simp only [Scan.readingsFor?, HookKind.renumber, h.argument?, Option.map_map, Function.comp_def,
      h.resolveValue]
    rfl
  | result method matcher =>
    simp only [Scan.readingsFor?, HookKind.renumber, h.resolveReturns]
    rfl
  | enum name =>
    simp only [Scan.readingsFor?, HookKind.renumber, Site.node_renumber, h.resolveValue]
    rfl

theorem deliverValue (kind : HookKind) (observer : Observer) (index : Int) (factory : ValueFactory)
    (moveUnder : Option Int) (trigger : Site) (s : ScanState) :
    (scanner.on u).deliverValue (kind.renumber ρ) (observer.reposition π) index factory moveUnder
        (trigger.renumber ρ) (s.renumber ρ π) =
      Prod.map (ScanState.renumber ρ π) id
        ((scanner.on u').deliverValue kind observer index factory moveUnder trigger s) := by
  simp only [Scan.deliverValue, h.readingsFor?, Observer.reposition]
  rcases (scanner.on u').readingsFor? kind factory observer.selections trigger with
    _ | ⟨_ | ⟨reading, readings⟩, _ | argument⟩
  · rfl
  · rfl
  · exact congrArg (·, false) (h.passOn scanner observer factory.isSize argument s)
  · exact congrArg (·, true)
      (h.storeReadings scanner observer.requester index moveUnder factory s (reading :: readings))
  · exact congrArg (·, true)
      (h.storeReadings scanner observer.requester index moveUnder factory s (reading :: readings))

theorem deliverRules (kind : HookKind) (observer : Observer) (index : Int) (rules : List RuleId)
    (trigger : Site) (s : ScanState) :
    (scanner.on u).deliverRules (kind.renumber ρ) (observer.reposition π) index rules
        (trigger.renumber ρ) (s.renumber ρ π) =
      Prod.map (ScanState.renumber ρ π) id
        ((scanner.on u').deliverRules kind observer index rules trigger s) := by
  cases kind with
  | parameter method matcher position =>
    simp only [Scan.deliverRules, HookKind.renumber, h.argument?, Observer.reposition,
      Site.node_renumber, ScanState.stores_renumber, Arena.hookRoot_renumber]
    cases (scanner.on u').argument? trigger position with
    | none => rfl
    | some argument =>
      exact congrArg (·, true) (h.followDepending scanner (h.evaluate scanner) observer.requester
        index rules (some ⟨trigger.node, s.stores.hookRoot observer.requester⟩)
        (observer.chain + 1) s argument)
  | _ => rfl

/-- **What an observer is served does not depend on the numbers of the nodes.** -/
theorem deliver (kind : HookKind) (observer : Observer) (trigger : Site) (s : ScanState) :
    (scanner.on u).deliver (kind.renumber ρ) (observer.reposition π) (trigger.renumber ρ)
        (s.renumber ρ π) =
      Prod.map (ScanState.renumber ρ π) id ((scanner.on u').deliver kind observer trigger s) := by
  have hpayload : (observer.reposition π).payload = observer.payload := rfl
  rw [Scan.deliver, Scan.deliver, hpayload]
  cases observer.payload with
  | value index id factory moveUnder => exact h.deliverValue ..
  | follow index rules => exact h.deliverRules ..

end CompilationUnit.Renumbers
end CryptoUsage
