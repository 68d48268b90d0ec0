import CryptoUsage.Proofs.Resolution.Guarding

/-!
# Methods that return a parameter

A call of a method that returns just its parameter has the values of the argument.  The search for
them goes from the call to what the method returns, from there to the argument in the frames of
the caller, and then on as it would from the argument alone, but with two steps fewer and with two
nodes marked: the call and the returned expression.

Fewer steps make no difference as long as no call comes too deep, and marks make none on nodes
that are not come to (`Search.found_add`, `Search.found_union`).  The marks do make a difference
where the argument is a call of the same method: the guard takes the returned expression, which is
met again for another call, for a cycle, and the outer call has no value (`not_transparent`).

## How it goes

* Parameters.  Different positions have different parameters (`areApart_methodParameters`), so the
  argument that the frame has for a parameter is the one at its position (`Frame.argument?_zip`).
* The calls of a search.  `ResolvesFully` says that no call comes too deep, and `Avoids` that the
  search does not come to a node.  Both speak of the calls that the search makes, so they can be
  checked on an example.
* Passing on.  `PassesOn` has what is assumed of the call.  Two steps into the search for the call
  stands the search for the argument (`found_call`).  A search that does not come to what the
  method returns does not come to the call either, because from there it would (`avoids_call`).
-/

set_option autoImplicit false

namespace CryptoUsage

/-! ## Parameters -/

/-- Different positions have different parameters. -/
def AreApart (parameters : List Symbol) : Prop :=
  parameters.Pairwise fun p q => p.same q = false

theorem Symbol.same_self (s : Symbol) : s.same s = true := by
  rw [Symbol.same, beq_self_eq_true, beq_self_eq_true]
  rfl

/-- Parameters that are declared by different nodes are apart. -/
theorem areApart_filterMap {declarations : List NodeId} (h : declarations.Nodup)
    (name? : NodeId → Option String) :
    AreApart (declarations.filterMap fun d => (name? d).map fun name => ⟨name, d, .parameter⟩) := by
  refine List.pairwise_filterMap.mpr (h.imp fun {d e} hne p hp q hq => ?_)
  obtain ⟨_, -, rfl⟩ := Option.map_eq_some_iff.mp hp
  obtain ⟨_, -, rfl⟩ := Option.map_eq_some_iff.mp hq
  rw [Symbol.same, beq_eq_false_iff_ne.mpr hne, Bool.false_and]

/-- The argument of a parameter is the one at its position. -/
theorem Frame.argument?_zip {parameters : List Symbol} (h : AreApart parameters)
    {arguments : List NodeId} {i : Nat} {s : Symbol} {a : NodeId} (hs : parameters[i]? = some s)
    (ha : arguments[i]? = some a) :
    Frame.argument? (parameters.zip arguments) s = some a := by
  induction parameters generalizing arguments i with
  | nil => cases hs
  | cons p parameters ih =>
    obtain ⟨hp, hrest⟩ := List.pairwise_cons.mp h
    cases arguments with
    | nil => cases ha
    | cons b arguments =>
      cases i with
      | zero =>
        obtain rfl := Option.some.inj hs
        obtain rfl := Option.some.inj ha
        simp only [Frame.argument?, List.zip_cons_cons, List.find?_cons, Symbol.same_self,
          Option.map_some]
      | succ i =>
        have hapart : p.same s = false := hp s (List.mem_of_getElem? hs)
        simp only [Frame.argument?, List.zip_cons_cons, List.find?_cons, hapart]
        exact ih hrest hs ha

namespace CompilationUnit

variable {u : CompilationUnit}

theorem areApart_methodParameters (u : CompilationUnit) (method : NodeId) :
    AreApart (u.methodParameters method) := by
  have hnodup (n : NodeId) : (u.tree.namedChildren n).Nodup :=
    (SyntaxTree.nodup_children n).filter _
  unfold methodParameters
  split
  · unfold Java.methodParameters
    split
    · exact .nil
    · next parameters _ =>
      have h := areApart_filterMap (hnodup parameters) fun parameter =>
        (Java.parameterName? u parameter).map u.tree.text
      simpa only [Option.map_map, Function.comp_def] using h
  · have hdeclared : AreApart (Python.declaredParameters u method) := by
      unfold Python.declaredParameters
      split
      · exact .nil
      · next parameters _ =>
        have h := areApart_filterMap (hnodup parameters) fun parameter =>
          (Python.parameterName? u parameter).map u.tree.text
        simpa only [Option.map_map, Function.comp_def] using h
    unfold Python.methodParameters
    split
    · exact .nil
    · next first rest heq =>
      rw [heq] at hdeclared
      split
      · exact (List.pairwise_cons.mp hdeclared).2
      · exact hdeclared

/-! ## The calls of a search for values -/

section Values

variable (u) (config : ScanConfig) (factory : ValueFactory) (selections : List String)

/-- The calls that are made to resolve the value of an expression. -/
def valueVisits (n : NodeId) : List Search.Visit :=
  Search.visits (u.valueSearch config factory) (config.maxResolutionDepth + 1) ∅ []
    ⟨[], selections, n⟩

/-- No call comes too deep when the value of an expression is resolved. -/
def ResolvesFully (n : NodeId) : Prop :=
  ∀ v ∈ u.valueVisits config factory selections n, v.outcome ≠ .tooDeep

instance (n : NodeId) : Decidable (u.ResolvesFully config factory selections n) :=
  inferInstanceAs (Decidable (∀ v ∈ _, _))

/-- The value of an expression is resolved without coming to `r`. -/
def Avoids (n r : NodeId) : Prop := ∀ v ∈ u.valueVisits config factory selections n, v.node ≠ r

instance (n r : NodeId) : Decidable (u.Avoids config factory selections n r) :=
  inferInstanceAs (Decidable (∀ v ∈ _, _))

end Values

/-- One step more makes no difference to what is asked first, if no call comes too deep. -/
theorem ResolvesFully.found_asked {config : ScanConfig} {factory : ValueFactory}
    {selections : List String} {n : NodeId} (h : u.ResolvesFully config factory selections n)
    {q : Query} (hasked : q ∈ (u.valueSearch config factory ⟨[], selections, n⟩).asked
      (Search.found (u.valueSearch config factory) config.maxResolutionDepth {n})) :
    Search.found (u.valueSearch config factory) (config.maxResolutionDepth + 1) {n} q =
      Search.found (u.valueSearch config factory) config.maxResolutionDepth {n} q := by
  have hvisits : ∀ v ∈ Search.visits (u.valueSearch config factory) config.maxResolutionDepth
      {n} [n] q, v.outcome ≠ .tooDeep :=
    fun v hv => h v (Search.mem_visits_of_asked (Finset.notMem_empty n) hasked hv)
  exact Search.found_add hvisits 1

/-- A call of a method of the unit, not on an enum constant, that just returns its parameter at a
position: `r` is what the method returns and `a` the argument of the call. -/
structure PassesOn (u : CompilationUnit) (config : ScanConfig) (n method r : NodeId) (i : Nat)
    (a : NodeId) : Prop where
  call : u.expression n = .call (.invocation n)
  free : u.isOnEnumConstant config (.invocation n) = false
  defined : u.methodDefinition? (.invocation n) = some method
  returns : u.methodReturns method = [r]
  parameter : ∃ s, u.expression r = .variable s ∧ (u.methodParameters method)[i]? = some s
  argument : (u.arguments (.invocation n))[i]? = some a

namespace PassesOn

variable {config : ScanConfig} {factory : ValueFactory} {selections : List String}
  {n method r a : NodeId} {i : Nat}

theorem ne (h : u.PassesOn config n method r i a) : r ≠ n := by
  obtain ⟨s, hr, -⟩ := h.parameter
  rintro rfl
  rw [h.call] at hr
  cases hr

/-- What is found at the call is first looked for at the returned expression. -/
theorem returnedSearch_eq (h : u.PassesOn config n method r i a) (q : Query) :
    u.returnedSearch config q (.invocation n) =
      Search.all [⟨u.frameOf method (.invocation n) :: q.frames, q.selections, r⟩] := by
  rw [returnedSearch, if_neg (by rw [h.free]; exact Bool.false_ne_true), h.defined]
  simp only [h.returns, List.map_cons, List.map_nil]

/-- A call at the returned expression is about the argument, outside of the method's own frame. -/
theorem valueSearch_returned (h : u.PassesOn config n method r i a) (frames : List Frame)
    (selections : List String) :
    u.valueSearch config factory ⟨u.frameOf method (.invocation n) :: frames, selections, r⟩ =
      Search.all [⟨frames, selections, a⟩] := by
  obtain ⟨s, hr, hs⟩ := h.parameter
  have hargument : (u.frameOf method (.invocation n)).argument? s = some a :=
    Frame.argument?_zip (areApart_methodParameters u method) hs h.argument
  simp only [valueSearch, hr, variableQueries, hargument]

theorem valueSearch_call (h : u.PassesOn config n method r i a) {q : Query} (hq : q.node = n) :
    u.valueSearch config factory q = u.invocationSearch config q (.invocation n) := by
  rw [valueSearch, hq, h.call]

/-- Whoever comes to the call comes to what the method returns. -/
theorem exists_asked (h : u.PassesOn config n method r i a) {q : Query} (hq : q.node = n)
    (onward : Query → List Reading) :
    ∃ q' ∈ (u.valueSearch config factory q).asked onward, q'.node = r := by
  rw [h.valueSearch_call hq, invocationSearch, Search.asked_bind, h.returnedSearch_eq,
    Search.asked_all]
  exact ⟨_, List.mem_append_left _ (List.mem_singleton_self _), rfl⟩

/-- A search that does not come to what the method returns does not come to the call either. -/
theorem avoids_call (h : u.PassesOn config n method r i a)
    (hfull : u.ResolvesFully config factory selections a)
    (havoids : u.Avoids config factory selections a r) :
    u.Avoids config factory selections a n := by
  intro v hv hvn
  obtain ⟨v', hv', heq⟩ := Search.exists_visit_of_visit
    (fun q hq onward => h.exists_asked hq onward) (Finset.notMem_empty n) hfull ⟨v, hv, hvn⟩
  exact havoids v' hv' heq

/-- Two steps into the search for the call stands the search for the argument, in which the returned
expression and the call are marked. -/
theorem found_call (h : u.PassesOn config n method r i a)
    (hfull : u.ResolvesFully config factory selections n) :
    ∃ steps, config.maxResolutionDepth = steps + 1 ∧
      (∃ above, ∀ v ∈ Search.visits (u.valueSearch config factory) steps {r, n} above
        ⟨[], selections, a⟩, v.outcome ≠ .tooDeep) ∧
      (u.returnedSearch config ⟨[], selections, n⟩ (.invocation n)).result
          (Search.found (u.valueSearch config factory) config.maxResolutionDepth {n}) =
        Search.found (u.valueSearch config factory) steps {r, n} ⟨[], selections, a⟩ := by
  have hn : n ∉ (∅ : Finset NodeId) := Finset.notMem_empty n
  have hr : r ∉ ({n} : Finset NodeId) := by simpa using h.ne
  have hasked : (⟨[u.frameOf method (.invocation n)], selections, r⟩ : Query) ∈
      (u.valueSearch config factory ⟨[], selections, n⟩).asked
        (Search.found (u.valueSearch config factory) config.maxResolutionDepth {n}) := by
    rw [h.valueSearch_call rfl, invocationSearch, Search.asked_bind, h.returnedSearch_eq,
      Search.asked_all]
    exact List.mem_append_left _ (List.mem_singleton_self _)
  have hreturned : ∀ v ∈ Search.visits (u.valueSearch config factory) config.maxResolutionDepth
      {n} [n] ⟨[u.frameOf method (.invocation n)], selections, r⟩, v.outcome ≠ .tooDeep :=
    fun v hv => hfull v (Search.mem_visits_of_asked hn hasked hv)
  cases hsteps : config.maxResolutionDepth with
  | zero =>
    rw [hsteps] at hreturned
    exact absurd rfl (hreturned _ (List.mem_singleton_self _))
  | succ steps =>
    rw [hsteps] at hreturned
    refine ⟨steps, rfl, ⟨[r, n], fun v hv => hreturned v (Search.mem_visits_of_asked hr ?_ hv)⟩, ?_⟩
    · rw [h.valueSearch_returned, Search.asked_all]
      exact List.mem_singleton_self _
    · rw [h.returnedSearch_eq, Search.result_all, List.flatMap_singleton, Search.found, if_neg hr,
        h.valueSearch_returned, Search.result_all, List.flatMap_singleton]

end PassesOn

/-- **A method that returns a parameter is transparent.**  If the argument of a call of the method
has values, then the call has the same values, provided that no call of the search comes too deep
and that the search for the argument does not come to the very expression that the method
returns. -/
theorem resolveValue_passes_on {config : ScanConfig} {factory : ValueFactory}
    {selections : List String} {n method r a : NodeId} {i : Nat}
    (h : u.PassesOn config n method r i a)
    (hcall : u.ResolvesFully config factory selections n)
    (hargument : u.ResolvesFully config factory selections a)
    (havoids : u.Avoids config factory selections a r)
    (hvalue : u.resolveValue config factory selections a ≠ []) :
    u.resolveValue config factory selections n = u.resolveValue config factory selections a := by
  obtain ⟨steps, hsteps, ⟨above, hfull⟩, hreturned⟩ := h.found_call hcall
  have hmarks : ∀ v ∈ u.valueVisits config factory selections a,
      v.node ∉ ({r, n} : Finset NodeId) :=
    fun v hv hmem => by
      rcases Finset.mem_insert.mp hmem with heq | hmem
      · exact havoids v hv heq
      · exact h.avoids_call hargument havoids v hv (Finset.mem_singleton.mp hmem)
  have hsame : Search.found (u.valueSearch config factory) steps {r, n} ⟨[], selections, a⟩ =
      u.resolveValue config factory selections a :=
    calc Search.found (u.valueSearch config factory) steps {r, n} ⟨[], selections, a⟩
        = Search.found (u.valueSearch config factory) (steps + 2) {r, n} ⟨[], selections, a⟩ :=
          (Search.found_add hfull 2).symm
      _ = Search.found (u.valueSearch config factory) (config.maxResolutionDepth + 1)
            (∅ ∪ {r, n}) ⟨[], selections, a⟩ := by rw [hsteps, Finset.empty_union]
      _ = Search.found (u.valueSearch config factory) (config.maxResolutionDepth + 1) ∅
            ⟨[], selections, a⟩ := Search.found_union hmarks
      _ = u.resolveValue config factory selections a := found_valueSearch _ [] _
  have hfound : u.resolveValue config factory selections n =
      (u.invocationSearch config ⟨[], selections, n⟩ (.invocation n)).result
        (Search.found (u.valueSearch config factory) config.maxResolutionDepth {n}) := by
    refine (found_valueSearch (config.maxResolutionDepth + 1) [] ⟨[], selections, n⟩).symm.trans ?_
    rw [List.toFinset_nil, Search.found, if_neg (Finset.notMem_empty n), h.valueSearch_call rfl]
    rfl
  -- what the method returns has values, so the receiver is not asked
  rw [hfound, invocationSearch, Search.result_bind, hreturned, hsame]
  cases hreadings : u.resolveValue config factory selections a with
  | nil => exact absurd hreadings hvalue
  | cons reading readings => rfl

end CompilationUnit

/-! ### A method called on its own result

    def f(x):
        return x
    g(f(f(1)))
-/

namespace Twice

/-- The nodes of the program. -/
def nodes : Array SyntaxNode := #[
  ⟨none, "module", true, none, ⟨1, 1, 0, 34⟩, "def f(x):\n    return x\ng(f(f(1)))\n"⟩,
  ⟨some 0, "function_definition", true, none, ⟨1, 1, 0, 22⟩, "def f(x):\n    return x"⟩,
  ⟨some 1, "def", false, none, ⟨1, 1, 0, 3⟩, "def"⟩,
  ⟨some 1, "identifier", true, some "name", ⟨1, 5, 4, 5⟩, "f"⟩,
  ⟨some 1, "parameters", true, some "parameters", ⟨1, 6, 5, 8⟩, "(x)"⟩,
  ⟨some 4, "(", false, none, ⟨1, 6, 5, 6⟩, "("⟩,
  ⟨some 4, "identifier", true, none, ⟨1, 7, 6, 7⟩, "x"⟩,
  ⟨some 4, ")", false, none, ⟨1, 8, 7, 8⟩, ")"⟩,
  ⟨some 1, ":", false, none, ⟨1, 9, 8, 9⟩, ":"⟩,
  ⟨some 1, "block", true, some "body", ⟨2, 5, 14, 22⟩, "return x"⟩,
  ⟨some 9, "return_statement", true, none, ⟨2, 5, 14, 22⟩, "return x"⟩,
  ⟨some 10, "return", false, none, ⟨2, 5, 14, 20⟩, "return"⟩,
  ⟨some 10, "identifier", true, none, ⟨2, 12, 21, 22⟩, "x"⟩,
  ⟨some 0, "expression_statement", true, none, ⟨3, 1, 23, 33⟩, "g(f(f(1)))"⟩,
  ⟨some 13, "call", true, none, ⟨3, 1, 23, 33⟩, "g(f(f(1)))"⟩,
  ⟨some 14, "identifier", true, some "function", ⟨3, 1, 23, 24⟩, "g"⟩,
  ⟨some 14, "argument_list", true, some "arguments", ⟨3, 2, 24, 33⟩, "(f(f(1)))"⟩,
  ⟨some 16, "(", false, none, ⟨3, 2, 24, 25⟩, "("⟩,
  ⟨some 16, "call", true, none, ⟨3, 3, 25, 32⟩, "f(f(1))"⟩,
  ⟨some 18, "identifier", true, some "function", ⟨3, 3, 25, 26⟩, "f"⟩,
  ⟨some 18, "argument_list", true, some "arguments", ⟨3, 4, 26, 32⟩, "(f(1))"⟩,
  ⟨some 20, "(", false, none, ⟨3, 4, 26, 27⟩, "("⟩,
  ⟨some 20, "call", true, none, ⟨3, 5, 27, 31⟩, "f(1)"⟩,
  ⟨some 22, "identifier", true, some "function", ⟨3, 5, 27, 28⟩, "f"⟩,
  ⟨some 22, "argument_list", true, some "arguments", ⟨3, 6, 28, 31⟩, "(1)"⟩,
  ⟨some 24, "(", false, none, ⟨3, 6, 28, 29⟩, "("⟩,
  ⟨some 24, "integer", true, none, ⟨3, 7, 29, 30⟩, "1"⟩,
  ⟨some 24, ")", false, none, ⟨3, 8, 30, 31⟩, ")"⟩,
  ⟨some 20, ")", false, none, ⟨3, 9, 31, 32⟩, ")"⟩,
  ⟨some 16, ")", false, none, ⟨3, 10, 32, 33⟩, ")"⟩]

/-- The unit with the program. -/
def unit : CompilationUnit where
  language := .python
  filePath := "m.py"
  tree := { nodes, parent_lt := by decide +kernel }

/-- The parameter of the function. -/
def x : Symbol := ⟨"x", 6, .parameter⟩

end Twice

set_option maxRecDepth 100000 in
/-- The inner call passes on the number. -/
theorem CompilationUnit.inner_call_passes_on :
    Twice.unit.PassesOn {} 22 1 12 0 26 ∧ Twice.unit.ResolvesFully {} .keyBits [] 22 ∧
      Twice.unit.ResolvesFully {} .keyBits [] 26 ∧ Twice.unit.Avoids {} .keyBits [] 26 12 ∧
      Twice.unit.resolveValue {} .keyBits [] 26 = [⟨.int 1, 26⟩] ∧
      Twice.unit.resolveValue {} .keyBits [] 22 = [⟨.int 1, 26⟩] := by
  have hpasses : Twice.unit.PassesOn {} 22 1 12 0 26 :=
    ⟨by decide +kernel, by decide +kernel, by decide +kernel, by decide +kernel,
      ⟨Twice.x, by decide +kernel, by decide +kernel⟩, by decide +kernel⟩
  have hcall : Twice.unit.ResolvesFully {} .keyBits [] 22 := by decide +kernel
  have hargument : Twice.unit.ResolvesFully {} .keyBits [] 26 := by decide +kernel
  have havoids : Twice.unit.Avoids {} .keyBits [] 26 12 := by decide +kernel
  have hvalue : Twice.unit.resolveValue {} .keyBits [] 26 = [⟨.int 1, 26⟩] := by decide +kernel
  have hvalues : Twice.unit.resolveValue {} .keyBits [] 26 ≠ [] := by
    rw [hvalue]
    exact List.cons_ne_nil _ _
  exact ⟨hpasses, hcall, hargument, havoids, hvalue,
    (resolveValue_passes_on hpasses hcall hargument havoids hvalues).trans hvalue⟩

set_option maxRecDepth 100000 in
/-- The outer call does not pass on the value of the inner one: it has none. -/
theorem CompilationUnit.not_transparent :
    ¬ ∀ (u : CompilationUnit) (config : ScanConfig) (factory : ValueFactory)
      (selections : List String) (n method r a : NodeId) (i : Nat),
      u.PassesOn config n method r i a → u.ResolvesFully config factory selections n →
      u.ResolvesFully config factory selections a →
      u.resolveValue config factory selections a ≠ [] →
      u.resolveValue config factory selections n = u.resolveValue config factory selections a := by
  intro h
  have hpasses : Twice.unit.PassesOn {} 18 1 12 0 22 :=
    ⟨by decide +kernel, by decide +kernel, by decide +kernel, by decide +kernel,
      ⟨Twice.x, by decide +kernel, by decide +kernel⟩, by decide +kernel⟩
  exact absurd (h Twice.unit {} .keyBits [] 18 1 12 22 0 hpasses (by decide +kernel)
    (by decide +kernel) (by decide +kernel)) (by decide +kernel)

end CryptoUsage
