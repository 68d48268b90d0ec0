import CryptoUsage.Proofs.Hooks.Waiting
import CryptoUsage.Proofs.Scan.Soundness

/-!
# Chains of hooks

What is asked for may come to a parameter of a method: a value that is looked for is that of a
parameter, or rules are to be followed from one.  Then the request waits for the calls of that
method, and the argument of such a call may be a parameter again.  `Arrives` lists the ways in
which a request comes to a parameter, with the number of hooks it went through before, which is
limited.

No observer ever went through more hooks than the limit.  A request for values is registered
exactly if it did not (`Arrives.asks_iff`, `requests_are_chained_within_limit`).  For a request to
follow rules the limit is checked before the new hook is counted, and so it is registered one time
less: not after exactly as many hooks as the limit (`rules_are_chained_once_less`).

## How it goes

* Requests that are registered.  A repository asks for something if an observer with the same
  request waits for the same target.  Registering makes it ask, whether the request is new or
  there already (`asks_register`), and nothing that is asked for is lost while others register.
* Requests that come to a parameter.  An observer is told of a call (`Tells`), stays, and is
  handed on with the argument of the call; so what handling the event leaves is what `deliver`
  leaves (`Tells.hooks_handle`).
* Within the limit.  What an observer may wait for (`Requests`) includes the length of its chain,
  and soundness says that every observer waits for something that it may.  The exact condition is
  that of `Arrives.asks_iff`, which has a case for each way in which a request comes to a
  parameter.

The program at the end has two hooks in a row and a limit of one.
-/

set_option autoImplicit false

namespace CryptoUsage

/-! ## Requests that are registered -/

theorem Observer.sameRequest_self (request : Observer) : request.sameRequest request = true := by
  obtain ⟨requester, root, payload, selections, chain, registeredAt⟩ := request
  cases payload <;> simp [sameRequest, HookPayload.sameAs]

namespace HookRepository

variable {repository : HookRepository} {kind kind' : HookKind} {request observer : Observer}

/-- Whether the request waits for the target. -/
def asks (repository : HookRepository) (kind : HookKind) (request : Observer) : Bool :=
  repository.hooks.any fun hook =>
    hook.kind.sameTarget kind && hook.observers.any fun o => o.2.sameRequest request

theorem asks_iff :
    repository.asks kind request = true ↔ ∃ kind' number observer,
      repository.Waits kind' number observer ∧ kind'.sameTarget kind = true ∧
        observer.sameRequest request = true := by
  simp only [asks, List.any_eq_true, Bool.and_eq_true]
  constructor
  · rintro ⟨hook, hmem, htarget, ⟨number, observer⟩, hentry, hsame⟩
    exact ⟨hook.kind, number, observer, ⟨hook, hmem, rfl, hentry⟩, htarget, hsame⟩
  · rintro ⟨_, number, observer, ⟨hook, hmem, rfl, hentry⟩, htarget, hsame⟩
    exact ⟨hook, hmem, htarget, (number, observer), hentry, hsame⟩

/-- A request goes on waiting while others are registered. -/
theorem asks_register_of_asks (h : repository.asks kind request = true) :
    (repository.register kind' observer).1.asks kind request = true := by
  obtain ⟨_, number, other, hwaits, htarget, hsame⟩ := asks_iff.mp h
  exact asks_iff.mpr ⟨_, number, other, hwaits.register observer, htarget, hsame⟩

/-- A request that is registered waits, whether it did already or not. -/
theorem asks_register (repository : HookRepository) (kind : HookKind) (request : Observer) :
    (repository.register kind request).1.asks kind request = true := by
  have hself := request.sameRequest_self
  rcases register_cases repository kind request with
    ⟨heq, hook, hmem, htarget, entry, hentry, hsame⟩ | ⟨-, heq⟩ |
    ⟨before, hook, after, -, -, htarget, -, heq⟩ <;> rw [heq]
  · exact asks_iff.mpr ⟨hook.kind, entry.1, entry.2, ⟨hook, hmem, rfl, hentry⟩, htarget, hsame⟩
  · exact asks_iff.mpr ⟨kind, repository.nextObserver, request,
      ⟨{ kind, observers := [(repository.nextObserver, request)] }, by simp, rfl, by simp⟩,
      kind.sameTarget_self, hself⟩
  · exact asks_iff.mpr ⟨hook.kind, repository.nextObserver, request,
      ⟨hook.join repository.nextObserver request, by simp, rfl, by simp [Hook.join]⟩, htarget,
      hself⟩

end HookRepository

/-- Whether a payload asks to follow rules. -/
def HookPayload.isFollow : HookPayload → Bool
  | .value .. => false
  | .follow .. => true

namespace Scan

/-! ## Requests that come to a parameter -/

section Arriving

variable (scan : Scan)

/-- An event tells an observer on a parameter of a call that has an argument for it. -/
structure Tells (s : ScanState) (event : HookEvent) (observer : Observer) (argument : NodeId) :
    Prop where
  observer_eq : s.hooks.observer? event.hook event.observer = some observer
  argument_eq : ∃ hook method matcher place, s.hooks.hook? event.hook = some hook ∧
    hook.kind = .parameter method matcher place ∧
      scan.argument? event.trigger place = some argument

/-- A request comes to a parameter of a method in one state and leaves another one.  It did not go
through a hook before if it is about the argument of a site that a rule matched, and through one
more than the observer it comes from if it is about the argument of a call. -/
inductive Arrives : ScanState → HookKind → Observer → ScanState → Prop
  /-- A value is looked for that is, after some selections, that of a parameter. -/
  | value {s : ScanState} {evaluate : Evaluator} {id : StoreId} {ruleId : RuleId}
      {parameter : Parameter} {factory : ValueFactory} {argument method : NodeId}
      {position place : Nat} {selections : List String} {matcher : MethodMatcher}
      (role_eq : parameter.role = .detectable factory)
      (unresolved : scan.unit.resolveValue scan.config factory [] argument = [])
      (planned : .parameter method place selections ∈
        scan.unit.planHooks scan.config factory.isSize [] argument)
      (matcher_eq : scan.unit.methodMatcher? method = some matcher) :
      Arrives s (.parameter method matcher place)
        { requester := id
          root := s.rootOf id
          payload := .value position ⟨ruleId, position⟩ factory parameter.moveUnder
          selections
          registeredAt := s.position }
        (scan.readArgument evaluate id ruleId s ((parameter, argument), position))
  | valueOnward {s : ScanState} {event : HookEvent} {observer : Observer} {index : Int}
      {id : FactoryId} {factory : ValueFactory} {moveUnder : Option Int}
      {argument method : NodeId} {place : Nat} {selections : List String} {matcher : MethodMatcher}
      (tells : scan.Tells s event observer argument)
      (payload_eq : observer.payload = .value index id factory moveUnder)
      (unresolved : scan.unit.resolveValue scan.config factory observer.selections argument = [])
      (planned : .parameter method place selections ∈
        scan.unit.planHooks scan.config factory.isSize observer.selections argument)
      (matcher_eq : scan.unit.methodMatcher? method = some matcher) :
      Arrives s (.parameter method matcher place)
        { observer with chain := observer.chain + 1, selections, registeredAt := s.position }
        (scan.handle s event)
  /-- Rules are to be followed from a parameter. -/
  | rules {s : ScanState} {evaluate : Evaluator} {id : StoreId} {ruleId : RuleId}
      {parameter : Parameter} {rules : List RuleId} {argument method : NodeId}
      {position place : Nat} {matcher : MethodMatcher}
      (role_eq : parameter.role = .depending rules)
      (isParameter : scan.IsParameterOf argument method place)
      (matcher_eq : scan.unit.methodMatcher? method = some matcher) :
      Arrives s (.parameter method matcher place)
        { requester := id
          root := s.rootOf id
          payload := .follow position rules
          registeredAt := s.position }
        (scan.readArgument evaluate id ruleId s ((parameter, argument), position))
  | rulesOnward {s : ScanState} {event : HookEvent} {observer : Observer} {index : Int}
      {rules : List RuleId} {argument method : NodeId} {place : Nat} {matcher : MethodMatcher}
      (tells : scan.Tells s event observer argument)
      (payload_eq : observer.payload = .follow index rules)
      (isParameter : scan.IsParameterOf argument method place)
      (matcher_eq : scan.unit.methodMatcher? method = some matcher) :
      Arrives s (.parameter method matcher place)
        { requester := observer.requester
          root := s.rootOf observer.requester
          payload := .follow index rules
          chain := observer.chain + 1
          registeredAt := s.position }
        (scan.handle s event)

/-- Whether a request that went through so many hooks may wait for one more. -/
def MayChain (request : Observer) : Prop :=
  if request.payload.isFollow then request.chain < scan.config.maxHookChain
  else request.chain ≤ scan.config.maxHookChain

end Arriving

variable {scan : Scan} {s s' : ScanState} {kind : HookKind} {request observer : Observer}
  {event : HookEvent} {argument method : NodeId} {place : Nat} {selections : List String}
  {matcher : MethodMatcher}

/-! ## Waiting for a plan -/

theorem hookOf?_parameter (h : scan.unit.methodMatcher? method = some matcher) :
    scan.hookOf? (.parameter method place selections) =
      some (.parameter method matcher place, selections) := by
  rw [hookOf?, h, Option.map_some]

theorem asks_waitFor_of_asks (plan : HookPlan) (h : s.hooks.asks kind request = true) :
    (scan.waitFor observer s plan).hooks.asks kind request = true := by
  rw [waitFor]
  split
  · exact HookRepository.asks_register_of_asks h
  · exact h

theorem asks_waitFor {plan : HookPlan} (h : scan.hookOf? plan = some (kind, selections)) :
    (scan.waitFor observer s plan).hooks.asks kind { observer with selections } = true := by
  simp only [waitFor, h]
  exact HookRepository.asks_register ..

theorem asks_waitFor_foldl_of_asks (plans : List HookPlan)
    (h : s.hooks.asks kind request = true) :
    (plans.foldl (scan.waitFor observer) s).hooks.asks kind request = true := by
  induction plans generalizing s with
  | nil => exact h
  | cons plan plans ih => exact ih (asks_waitFor_of_asks plan h)

/-- Whoever waits for what is planned waits for each of the plans. -/
theorem asks_waitFor_foldl {plan : HookPlan} {plans : List HookPlan} (hplan : plan ∈ plans)
    (h : scan.hookOf? plan = some (kind, selections)) :
    (plans.foldl (scan.waitFor observer) s).hooks.asks kind { observer with selections } =
      true := by
  obtain ⟨before, after, rfl⟩ := List.append_of_mem hplan
  rw [List.foldl_append, List.foldl_cons]
  exact asks_waitFor_foldl_of_asks after (asks_waitFor h)

/-! ## What a request leaves when it comes to a parameter -/

/-- Rules are followed from a parameter by waiting for its method, below the limit. -/
theorem followDepending_of_parameter (evaluate : Evaluator) (id : StoreId) (index : Int)
    (rules : List RuleId) (origin : Option HookOrigin) (chain : Nat) (s : ScanState)
    (h : scan.IsParameterOf argument method place) :
    scan.followDepending evaluate id index rules origin chain s argument =
      if chain < scan.config.maxHookChain then
        scan.waitFor
          { requester := id
            root := s.rootOf id
            payload := .follow index rules
            chain
            registeredAt := s.position }
          s (.parameter method place [])
      else s := by
  obtain ⟨symbol, hvariable, hkind, hplace⟩ := h
  simp only [followDepending, hvariable, hkind, hplace, if_true]

theorem asks_followDepending_iff (evaluate : Evaluator) (id : StoreId) (index : Int)
    (rules : List RuleId) (origin : Option HookOrigin) (chain : Nat) (s : ScanState)
    (h : scan.IsParameterOf argument method place)
    (hmatcher : scan.unit.methodMatcher? method = some matcher)
    (hrequest : request = { requester := id
                            root := s.rootOf id
                            payload := .follow index rules
                            chain
                            registeredAt := s.position }) :
    (scan.followDepending evaluate id index rules origin chain s argument).hooks.asks
        (.parameter method matcher place) request = true ↔
      s.hooks.asks (.parameter method matcher place) request = true ∨
        chain < scan.config.maxHookChain := by
  subst hrequest
  rw [followDepending_of_parameter _ _ _ _ _ _ _ h]
  split
  · next hlt => exact iff_of_true (asks_waitFor (hookOf?_parameter hmatcher)) (.inr hlt)
  · next hge => exact ⟨.inl, fun hasks => hasks.resolve_right hge⟩

/-- An observer that is told of a call stays, and is handed on or served with its argument. -/
theorem Tells.hooks_handle (h : scan.Tells s event observer argument) :
    ∃ method matcher place, scan.argument? event.trigger place = some argument ∧
      (scan.handle s event).hooks =
        (scan.deliver (.parameter method matcher place) observer event.trigger s).1.hooks := by
  obtain ⟨hook, method, matcher, place, hhook, hkind, hargument⟩ := h.argument_eq
  refine ⟨method, matcher, place, hargument, ?_⟩
  simp only [handle, hhook, h.observer_eq, hkind, HookKind.isOneShot, Bool.and_false,
    Bool.false_eq_true, if_false, hooks_emitIfDetected]

theorem Tells.hooks_handle_value (h : scan.Tells s event observer argument) {index : Int}
    {id : FactoryId} {factory : ValueFactory} {moveUnder : Option Int}
    (hpayload : observer.payload = .value index id factory moveUnder)
    (hnone : scan.unit.resolveValue scan.config factory observer.selections argument = []) :
    (scan.handle s event).hooks = (scan.passOn observer factory.isSize argument s).hooks := by
  obtain ⟨method, matcher, place, hargument, heq⟩ := h.hooks_handle
  rw [heq]
  simp only [deliver, hpayload, deliverValue, readingsFor?, hargument, Option.map_some, hnone]

theorem Tells.hooks_handle_rules (h : scan.Tells s event observer argument) {index : Int}
    {rules : List RuleId} (hpayload : observer.payload = .follow index rules) :
    ∃ origin, (scan.handle s event).hooks =
      (scan.followDepending scan.evaluate observer.requester index rules origin
        (observer.chain + 1) s argument).hooks := by
  obtain ⟨method, matcher, place, hargument, heq⟩ := h.hooks_handle
  refine ⟨some { trigger := event.trigger.node, hookRoot := s.stores.hookRoot observer.requester },
    heq.trans ?_⟩
  simp only [deliver, hpayload, deliverRules, hargument]

/-- **A request that comes to a parameter waits for its method if it may, and otherwise only if it
did before.** -/
theorem Arrives.asks_iff (h : scan.Arrives s kind request s') :
    s'.hooks.asks kind request = true ↔
      s.hooks.asks kind request = true ∨ scan.MayChain request := by
  cases h with
  | value role_eq unresolved planned matcher_eq =>
    -- the first hook is within every limit
    refine iff_of_true ?_ (.inr (Nat.zero_le _))
    simp only [readArgument, role_eq, detectValue, unresolved]
    exact asks_waitFor_foldl planned (hookOf?_parameter matcher_eq)
  | @valueOnward event observer index id factory moveUnder argument method place selections matcher
      tells payload_eq unresolved planned matcher_eq =>
    rw [tells.hooks_handle_value payload_eq unresolved, passOn, MayChain]
    simp only [payload_eq, HookPayload.isFollow, Bool.false_eq_true, if_false]
    split
    · next hlt => exact ⟨.inl, fun hasks => hasks.resolve_right (Nat.not_le_of_lt hlt)⟩
    · next hle =>
      refine iff_of_true ?_ (.inr (Nat.le_of_not_lt hle))
      exact payload_eq ▸ asks_waitFor_foldl planned (hookOf?_parameter matcher_eq)
  | rules role_eq isParameter matcher_eq =>
    simp only [readArgument, role_eq]
    exact asks_followDepending_iff _ _ _ _ _ _ _ isParameter matcher_eq rfl
  | rulesOnward tells payload_eq isParameter matcher_eq =>
    obtain ⟨origin, heq⟩ := tells.hooks_handle_rules payload_eq
    rw [heq]
    exact asks_followDepending_iff _ _ _ _ _ _ _ isParameter matcher_eq rfl

/-- **Requests are chained within the limit**: at every moment of a scan, no observer that waits
went through more hooks than the limit; and a request that comes to a parameter of a method after so
many hooks waits there exactly if they are not more than the limit, be it for values or to follow
rules, or if it waited there already.  The exception is a request to follow rules after exactly as
many hooks as the limit. -/
theorem requests_are_chained_within_limit (scan : Scan) :
    (∀ {s s' : ScanState}, scan.Advances s s' → ∀ {kind number observer},
      s'.hooks.Waits kind number observer → observer.chain ≤ scan.config.maxHookChain) ∧
    (∀ {s s' : ScanState} {kind : HookKind} {request : Observer},
      scan.Arrives s kind request s' →
      ¬ (request.payload.isFollow = true ∧ request.chain = scan.config.maxHookChain) →
        (s'.hooks.asks kind request = true ↔
          s.hooks.asks kind request = true ∨ request.chain ≤ scan.config.maxHookChain)) := by
  refine ⟨fun hadvances _ _ _ hwaits => ?_, fun harrives hrules => ?_⟩
  · obtain ⟨-, hs, -⟩ := hadvances.cases_of_kept (sound_kept scan)
    obtain ⟨-, -, hchain, -⟩ := hs.explained.requests hwaits
    exact hchain
  · rw [harrives.asks_iff]
    refine or_congr_right ?_
    rw [MayChain]
    split
    · next hfollow =>
      exact Nat.lt_iff_le_and_ne.trans (and_iff_left fun heq => hrules ⟨hfollow, heq⟩)
    · exact Iff.rfl

/-! ### Two hooks in a row

A call of `g` takes the size of a key from the parameter of `f`, and rules are followed from there
too.  Both requests come to the parameter of `k` after one hook, which is the limit.

    def f(x):
        g(x)
    def k(y):
        f(y)
    k(h(1))
    k(2)
-/

namespace TwoInARow

/-- The nodes of the program. -/
def nodes : Array SyntaxNode := #[
  ⟨none, "module", true, none, ⟨1, 1, 0, 51⟩,
    "def f(x):\n    g(x)\ndef k(y):\n    f(y)\nk(h(1))\nk(2)\n"⟩,
  ⟨some 0, "function_definition", true, none, ⟨1, 1, 0, 18⟩, "def f(x):\n    g(x)"⟩,
  ⟨some 1, "def", false, none, ⟨1, 1, 0, 3⟩, "def"⟩,
  ⟨some 1, "identifier", true, some "name", ⟨1, 5, 4, 5⟩, "f"⟩,
  ⟨some 1, "parameters", true, some "parameters", ⟨1, 6, 5, 8⟩, "(x)"⟩,
  ⟨some 4, "(", false, none, ⟨1, 6, 5, 6⟩, "("⟩,
  ⟨some 4, "identifier", true, none, ⟨1, 7, 6, 7⟩, "x"⟩,
  ⟨some 4, ")", false, none, ⟨1, 8, 7, 8⟩, ")"⟩,
  ⟨some 1, ":", false, none, ⟨1, 9, 8, 9⟩, ":"⟩,
  ⟨some 1, "block", true, some "body", ⟨2, 5, 14, 18⟩, "g(x)"⟩,
  ⟨some 9, "expression_statement", true, none, ⟨2, 5, 14, 18⟩, "g(x)"⟩,
  ⟨some 10, "call", true, none, ⟨2, 5, 14, 18⟩, "g(x)"⟩,
  ⟨some 11, "identifier", true, some "function", ⟨2, 5, 14, 15⟩, "g"⟩,
  ⟨some 11, "argument_list", true, some "arguments", ⟨2, 6, 15, 18⟩, "(x)"⟩,
  ⟨some 13, "(", false, none, ⟨2, 6, 15, 16⟩, "("⟩,
  ⟨some 13, "identifier", true, none, ⟨2, 7, 16, 17⟩, "x"⟩,
  ⟨some 13, ")", false, none, ⟨2, 8, 17, 18⟩, ")"⟩,
  ⟨some 0, "function_definition", true, none, ⟨3, 1, 19, 37⟩, "def k(y):\n    f(y)"⟩,
  ⟨some 17, "def", false, none, ⟨3, 1, 19, 22⟩, "def"⟩,
  ⟨some 17, "identifier", true, some "name", ⟨3, 5, 23, 24⟩, "k"⟩,
  ⟨some 17, "parameters", true, some "parameters", ⟨3, 6, 24, 27⟩, "(y)"⟩,
  ⟨some 20, "(", false, none, ⟨3, 6, 24, 25⟩, "("⟩,
  ⟨some 20, "identifier", true, none, ⟨3, 7, 25, 26⟩, "y"⟩,
  ⟨some 20, ")", false, none, ⟨3, 8, 26, 27⟩, ")"⟩,
  ⟨some 17, ":", false, none, ⟨3, 9, 27, 28⟩, ":"⟩,
  ⟨some 17, "block", true, some "body", ⟨4, 5, 33, 37⟩, "f(y)"⟩,
  ⟨some 25, "expression_statement", true, none, ⟨4, 5, 33, 37⟩, "f(y)"⟩,
  ⟨some 26, "call", true, none, ⟨4, 5, 33, 37⟩, "f(y)"⟩,
  ⟨some 27, "identifier", true, some "function", ⟨4, 5, 33, 34⟩, "f"⟩,
  ⟨some 27, "argument_list", true, some "arguments", ⟨4, 6, 34, 37⟩, "(y)"⟩,
  ⟨some 29, "(", false, none, ⟨4, 6, 34, 35⟩, "("⟩,
  ⟨some 29, "identifier", true, none, ⟨4, 7, 35, 36⟩, "y"⟩,
  ⟨some 29, ")", false, none, ⟨4, 8, 36, 37⟩, ")"⟩,
  ⟨some 0, "expression_statement", true, none, ⟨5, 1, 38, 45⟩, "k(h(1))"⟩,
  ⟨some 33, "call", true, none, ⟨5, 1, 38, 45⟩, "k(h(1))"⟩,
  ⟨some 34, "identifier", true, some "function", ⟨5, 1, 38, 39⟩, "k"⟩,
  ⟨some 34, "argument_list", true, some "arguments", ⟨5, 2, 39, 45⟩, "(h(1))"⟩,
  ⟨some 36, "(", false, none, ⟨5, 2, 39, 40⟩, "("⟩,
  ⟨some 36, "call", true, none, ⟨5, 3, 40, 44⟩, "h(1)"⟩,
  ⟨some 38, "identifier", true, some "function", ⟨5, 3, 40, 41⟩, "h"⟩,
  ⟨some 38, "argument_list", true, some "arguments", ⟨5, 4, 41, 44⟩, "(1)"⟩,
  ⟨some 40, "(", false, none, ⟨5, 4, 41, 42⟩, "("⟩,
  ⟨some 40, "integer", true, none, ⟨5, 5, 42, 43⟩, "1"⟩,
  ⟨some 40, ")", false, none, ⟨5, 6, 43, 44⟩, ")"⟩,
  ⟨some 36, ")", false, none, ⟨5, 7, 44, 45⟩, ")"⟩,
  ⟨some 0, "expression_statement", true, none, ⟨6, 1, 46, 50⟩, "k(2)"⟩,
  ⟨some 45, "call", true, none, ⟨6, 1, 46, 50⟩, "k(2)"⟩,
  ⟨some 46, "identifier", true, some "function", ⟨6, 1, 46, 47⟩, "k"⟩,
  ⟨some 46, "argument_list", true, some "arguments", ⟨6, 2, 47, 50⟩, "(2)"⟩,
  ⟨some 48, "(", false, none, ⟨6, 2, 47, 48⟩, "("⟩,
  ⟨some 48, "integer", true, none, ⟨6, 3, 48, 49⟩, "2"⟩,
  ⟨some 48, ")", false, none, ⟨6, 4, 49, 50⟩, ")"⟩]

/-- A rule for the calls of a function with one argument. -/
def ruleFor (function : String) (role : ParameterRole) : Rule where
  kind := .full
  matcher :=
    { objectTypes := .any, methodNames := .oneOf [function], parameterTypes := .exactly ["*"] }
  parameters := [{ typeName := anything, role }]
  next := []
  action := none
  bundle := "Default"
  exactType := false

/-- The scan of the program for calls of `g`: with calls of `h` as the argument, and with the size
of a key. -/
def work : Scan where
  catalog :=
    { rules := #[ruleFor "h" (.detectable .keyBits), ruleFor "g" (.depending [0]),
        ruleFor "g" (.detectable .keyBits)]
      earlier := by decide +kernel }
  roots := [1, 2]
  config := { maxHookChain := 1 }
  unit :=
    { language := .python
      filePath := "m.py"
      tree := { nodes, parent_lt := by decide +kernel } }

/-- The state in which the call of `f` is met. -/
def atCall : ScanState := meet (work.after 27)

/-- The hook on the parameter of a function of the program. -/
def hookOn (method : NodeId) (name : String) : HookKind :=
  .parameter method (.ofDefinition "m" name [anything]) 0

/-- Who waits for the argument of `f` to follow rules. -/
def follower : Observer :=
  { requester := 0, root := 0, payload := .follow 0 [0], registeredAt := 12 }

/-- Who waits for the argument of `f` to take its value. -/
def taker : Observer :=
  { requester := 1, root := 1, payload := .value 0 ⟨2, 0⟩ .keyBits none, registeredAt := 12 }

/-- The event for an observer at the call of `f`. -/
def eventFor (number : ObserverId) : HookEvent :=
  { hook := 0, observer := number, trigger := .invocation 27 }

set_option maxRecDepth 100000 in
theorem argument_eq : ∃ hook method matcher place, atCall.hooks.hook? 0 = some hook ∧
    hook.kind = .parameter method matcher place ∧
      work.argument? (.invocation 27) place = some 31 :=
  ⟨⟨hookOn 1 "f", [(0, follower), (1, taker)]⟩, _, _, _, rfl, rfl, by decide +kernel⟩

theorem tells_follower : work.Tells atCall (eventFor 0) follower 31 := ⟨rfl, argument_eq⟩

theorem tells_taker : work.Tells atCall (eventFor 1) taker 31 := ⟨rfl, argument_eq⟩

theorem methodMatcher?_eq :
    work.unit.methodMatcher? 17 = some (.ofDefinition "m" "k" [anything]) := by decide +kernel

/-- Who then waits for the argument of `k` to take its value. -/
def nextTaker : Observer := { taker with chain := 1, registeredAt := atCall.position }

theorem taker_arrives :
    work.Arrives atCall (hookOn 17 "k") nextTaker (work.handle atCall (eventFor 1)) :=
  .valueOnward tells_taker rfl (by decide +kernel) (by decide +kernel) methodMatcher?_eq

/-- Who then should wait for the argument of `k` to follow rules. -/
def nextFollower : Observer :=
  { follower with root := atCall.rootOf 0, chain := 1, registeredAt := atCall.position }

theorem follower_arrives :
    work.Arrives atCall (hookOn 17 "k") nextFollower (work.handle atCall (eventFor 0)) :=
  .rulesOnward tells_follower rfl
    ⟨⟨"y", 22, .parameter⟩, by decide +kernel, rfl, by decide +kernel⟩ methodMatcher?_eq

end TwoInARow

open TwoInARow in
set_option maxRecDepth 100000 in
/-- The request for a value that went through one hook is registered for the next. -/
theorem value_is_chained_up_to_limit :
    atCall.hooks.asks (hookOn 17 "k") nextTaker = false ∧
      (work.handle atCall (eventFor 1)).hooks.asks (hookOn 17 "k") nextTaker = true :=
  ⟨by decide +kernel,
    ((requests_are_chained_within_limit work).2 taker_arrives (by decide)).mpr
      (.inr (by decide))⟩

open TwoInARow in
set_option maxRecDepth 100000 in
/-- **The request to follow rules that went through one hook is not registered for the next**,
although one is within the limit. -/
theorem rules_are_chained_once_less : ¬ ∀ (scan : Scan) (s s' : ScanState) (kind : HookKind)
    (request : Observer), scan.Arrives s kind request s' →
      (s'.hooks.asks kind request = true ↔
        s.hooks.asks kind request = true ∨ request.chain ≤ scan.config.maxHookChain) := by
  intro h
  exact absurd ((h _ _ _ _ _ follower_arrives).mpr (.inr (by decide +kernel)))
    (by decide +kernel)

end Scan
end CryptoUsage
