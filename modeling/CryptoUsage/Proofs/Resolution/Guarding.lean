import CryptoUsage.Detection.Plan
import CryptoUsage.Proofs.FrontEnd.Nodes
import CryptoUsage.Proofs.Resolution.GuardedSearch

/-!
# The searches of a unit are guarded

Resolving values and planning what to wait for, stated as searches behind the guard: what a call
at a node asks for next (`valueSearch`, `planSearch`), with one set of marks that all calls share.

The search for values asks for what they can flow from (`asks_flow`).  Both searches only ask for
nodes of the tree, so everything that holds of such searches holds of them.
`searches_are_guarded` says it for any number of searches that follow one another: they all end,
each gives what `resolveValue`, `resolveReturns` or `planHooks` gives, the calls in progress at
one time are at different nodes, and the marks are in the end what they were in the beginning.

## How it goes

* The searches.  A `Search` is what is to be asked next together with what to do with the answers;
  it is data, so its calls can be counted.  There is one for each shape of expression.
* The searches find the same.  Given how to go on, the result of each is that of the case of
  `resolveShape` or `planShape` (`result_valueSearch`, `result_planSearch`), and so by induction
  are the guarded searches as wholes (`found_valueSearch`, `found_planSearch`).
* The searches stay within the tree.  What is asked for is a child, an argument, an initializer,
  an assigned or a returned value, all of them nodes of the tree.
* Any number of searches.  A search that stays within the tree returns, because the nodes in
  progress are different ones and there are finitely many (`returns_call`).
-/

set_option autoImplicit false

namespace CryptoUsage

/-- A query at a node of the tree, where the arguments in its frames are nodes of the tree. -/
structure Query.IsOf (u : CompilationUnit) (q : Query) : Prop where
  node : q.node < u.tree.size
  arguments : ∀ frame ∈ q.frames, ∀ binding ∈ frame, binding.2 < u.tree.size

theorem Query.IsOf.mem_range {u : CompilationUnit} {q : Query} (h : q.IsOf u) :
    q.node ∈ Finset.range u.tree.size :=
  Finset.mem_range.mpr h.node

namespace CompilationUnit

variable (u : CompilationUnit)

/-! ## Resolving values -/

section Values

variable (config : ScanConfig) (factory : ValueFactory)

/-- What is asked for a variable: the argument if it is a parameter of the innermost frame, and
otherwise everything it gets its values from. -/
def variableQueries (q : Query) (s : Symbol) : List Query :=
  match q.frames with
  | frame :: outer =>
    match frame.argument? s with
    | some argument => [⟨outer, q.selections, argument⟩]
    | none => bySources
  | [] => bySources
where
  /-- Everything the variable gets its values from; a parameter gets none. -/
  bySources : List Query :=
    if s.kind = .parameter then []
    else (u.valueSources s).map fun source => ⟨q.frames, q.selections, source⟩

/-- The search for the readings of an enum constant. -/
def enumSearch (q : Query) (declaration constant : NodeId) : Search Reading (List Reading) :=
  let name := Constant.str (u.constantName constant)
  match q.selections.getLast? with
  | none => pure (readingOf factory [] name constant)
  | some selection =>
    if selection = "name" ∨ selection = "toString" then
      pure (readingOf factory q.selections.dropLast name constant)
    else
      match u.enumArgument? declaration constant selection with
      | some argument => Search.one ⟨q.frames, q.selections.dropLast, argument⟩
      | none => pure []

/-- The search for the readings of what the invoked method of the unit returns. -/
def returnedSearch (q : Query) (site : Site) : Search Reading (List Reading) :=
  if u.isOnEnumConstant config site then pure []
  else
    match u.methodDefinition? site with
    | some method =>
      Search.all ((u.methodReturns method).map fun returned =>
        ⟨u.frameOf method site :: q.frames, q.selections, returned⟩)
    | none => pure []

/-- The search for the readings of an invocation. -/
def invocationSearch (q : Query) (site : Site) : Search Reading (List Reading) := do
  match ← u.returnedSearch config q site with
  | [] =>
    match u.receiver? site, u.methodName? site with
    | some receiver, some name => Search.one ⟨q.frames, q.selections ++ [name], receiver⟩
    | _, _ => return []
  | readings => return readings

/-- The search for the readings of a construction. -/
def constructionSearch (q : Query) (site : Site) : Search Reading (List Reading) :=
  match u.arguments site with
  | [argument] => Search.one ⟨q.frames, q.selections, argument⟩
  | _ => pure []

/-- The search for the readings of an array creation. -/
def arraySearch (q : Query) (dimensions : List NodeId) (rank : Nat) (elements : Option Nat) :
    Search Reading (List Reading) :=
  if !factory.isSize then pure []
  else
    match dimensions, elements with
    | [dimension], _ => if rank = 1 then Search.one ⟨q.frames, [], dimension⟩ else pure []
    | [], some count => pure (readingOf factory [] (.int (Int64.ofNat count)) q.node)
    | _, _ => pure []

/-- The part of a call at a node, in the search for its readings. -/
def valueSearch (q : Query) : Search Reading (List Reading) :=
  match u.expression q.node with
  | .literal c => pure (readingOf factory q.selections c q.node)
  | .wrapped inner => Search.one ⟨q.frames, q.selections, inner⟩
  | .variable s => Search.all (u.variableQueries q s)
  | .member object name => Search.one ⟨q.frames, q.selections ++ [name], object⟩
  | .enumConstant declaration constant => u.enumSearch factory q declaration constant
  | .call (.construction c) => u.constructionSearch q (.construction c)
  | .call (.invocation c) => u.invocationSearch config q (.invocation c)
  | .call (.enumSelection _) => pure []
  | .arrayCreation dimensions rank elements => arraySearch factory q dimensions rank elements
  | .unknown => pure []

end Values

/-! ## Planning what to wait for -/

section Plans

variable (config : ScanConfig) (size : Bool)

/-- The search for the plans for a variable. -/
def planVariableSearch (q : Query) (s : Symbol) : Search HookPlan (List HookPlan) :=
  match u.enumTypeOf? s with
  | some name => pure [.enum name q.selections]
  | none =>
    match s.kind with
    | .parameter =>
      pure ((u.parameterPosition? s).map fun (method, index) =>
        HookPlan.parameter method index q.selections).toList
    | .local | .field =>
      Search.all ((u.valueSources s).map fun source => ⟨q.frames, q.selections, source⟩)
    | .enumConstant => pure []

/-- The search for the plans for an invocation. -/
def planInvocationSearch (q : Query) (site : Site) : Search HookPlan (List HookPlan) :=
  let selection := do
    let receiver ← u.receiver? site
    let name ← u.methodName? site
    return (u.unwrap config receiver, name)
  match selection.bind fun (receiver, name) =>
      (u.receiverEnum? receiver).map fun enumName => (enumName, name) with
  | some (enumName, name) => pure [.enum enumName (q.selections ++ [name])]
  | none =>
    match u.methodDefinition? site, selection with
    | some method, _ => pure [.result method q.selections]
    | none, some (receiver, name) => Search.one ⟨q.frames, q.selections ++ [name], receiver⟩
    | none, none => pure []

/-- The search for the plans for a construction. -/
def planConstructionSearch (q : Query) (site : Site) : Search HookPlan (List HookPlan) :=
  match u.arguments site with
  | [argument] => Search.one ⟨q.frames, q.selections, argument⟩
  | _ => pure []

/-- The part of a call at a node, in the search for what to wait for. -/
def planSearch (q : Query) : Search HookPlan (List HookPlan) :=
  match u.expression q.node with
  | .wrapped inner => Search.one ⟨q.frames, q.selections, inner⟩
  | .variable s => u.planVariableSearch q s
  | .member object name => Search.one ⟨q.frames, q.selections ++ [name], object⟩
  | .call (.invocation c) => u.planInvocationSearch config q (.invocation c)
  | .call (.construction c) => u.planConstructionSearch q (.construction c)
  | .arrayCreation [dimension] 1 _ =>
    if size then Search.one ⟨q.frames, [], dimension⟩ else pure []
  | _ => pure []

end Plans

/-! ## The searches find the same -/

section Same

variable {u} {config : ScanConfig}

section Values

variable {factory : ValueFactory} {onward : Query → List Reading}

/-- How to go on from a node, as one goes on from a query. -/
abbrev resolverOf (onward : Query → List Reading) : Resolver :=
  fun frames selections n => onward ⟨frames, selections, n⟩

theorem flatMap_variableQueries (q : Query) (s : Symbol) :
    (u.variableQueries q s).flatMap onward =
      u.resolveVariable (resolverOf onward) q.frames q.selections s := by
  obtain ⟨frames, selections, n⟩ := q
  have hsources : (variableQueries.bySources u ⟨frames, selections, n⟩ s).flatMap onward =
      resolveVariable.bySources u (resolverOf onward) frames selections s := by
    rw [variableQueries.bySources, resolveVariable.bySources]
    split
    · rfl
    · rw [List.flatMap_map]
  cases frames with
  | nil => exact hsources
  | cons frame outer =>
    simp only [variableQueries, resolveVariable]
    cases frame.argument? s with
    | some argument => exact List.flatMap_singleton ..
    | none => exact hsources

theorem result_enumSearch (q : Query) (declaration constant : NodeId) :
    (u.enumSearch factory q declaration constant).result onward =
      u.resolveEnumConstant factory (resolverOf onward) q.frames q.selections declaration
        constant := by
  simp only [enumSearch, resolveEnumConstant]
  cases q.selections.getLast? with
  | none => rfl
  | some selection =>
    simp only
    split
    · rfl
    · cases u.enumArgument? declaration constant selection <;> rfl

theorem result_returnedSearch (q : Query) (site : Site) :
    (u.returnedSearch config q site).result onward =
      u.resolveReturned config (resolverOf onward) q.frames q.selections site := by
  rw [returnedSearch, resolveReturned]
  split
  · rfl
  · cases u.methodDefinition? site with
    | some method => rw [Search.result_all, List.flatMap_map]
    | none => rfl

theorem result_invocationSearch (q : Query) (site : Site) :
    (u.invocationSearch config q site).result onward =
      u.resolveInvocation config (resolverOf onward) q.frames q.selections site := by
  rw [invocationSearch, Search.result_bind, result_returnedSearch, resolveInvocation]
  cases u.resolveReturned config (resolverOf onward) q.frames q.selections site with
  | cons reading readings => rfl
  | nil => cases u.receiver? site <;> cases u.methodName? site <;> rfl

theorem result_constructionSearch (q : Query) (site : Site) :
    (u.constructionSearch q site).result onward =
      u.resolveConstruction (resolverOf onward) q.frames q.selections site := by
  rw [constructionSearch, resolveConstruction]
  rcases u.arguments site with _ | ⟨argument, _ | _⟩ <;> rfl

theorem result_arraySearch (q : Query) (dimensions : List NodeId) (rank : Nat)
    (elements : Option Nat) :
    (arraySearch factory q dimensions rank elements).result onward =
      resolveArray factory (resolverOf onward) q.frames q.node dimensions rank elements := by
  unfold arraySearch resolveArray
  split
  · rfl
  · rcases dimensions with _ | ⟨dimension, _ | _⟩
    · cases elements <;> rfl
    · simp only
      split <;> rfl
    · rfl

/-- A call finds what the shape of its expression says. -/
theorem result_valueSearch (q : Query) :
    (u.valueSearch config factory q).result onward =
      u.resolveShape config factory (resolverOf onward) q.frames q.selections q.node
        (u.expression q.node) := by
  rw [valueSearch, resolveShape.eq_def]
  cases u.expression q.node with
  | literal c => rfl
  | wrapped inner => rfl
  | «variable» s => exact (Search.result_all _).trans (flatMap_variableQueries q s)
  | member object name => rfl
  | enumConstant declaration constant => exact result_enumSearch q ..
  | call site =>
    cases site with
    | invocation c => exact result_invocationSearch q _
    | construction c => exact result_constructionSearch q _
    | enumSelection c => rfl
  | arrayCreation dimensions rank elements => exact result_arraySearch q ..
  | unknown => rfl

/-- The guarded search for values finds what the search with a path finds. -/
theorem found_valueSearch (steps : Nat) (path : List NodeId) (q : Query) :
    Search.found (u.valueSearch config factory) steps path.toFinset q =
      u.resolveWithin config factory steps path q.frames q.selections q.node := by
  induction steps generalizing path q with
  | zero => rfl
  | succ steps ih =>
    have honward : resolverOf (Search.found (u.valueSearch config factory) steps
        (q.node :: path).toFinset) = u.resolveWithin config factory steps (q.node :: path) := by
      funext frames selections n
      exact ih ..
    simp only [Search.found, resolveWithin]
    by_cases hn : q.node ∈ path
    · rw [if_pos (List.mem_toFinset.mpr hn), if_pos (List.contains_iff_mem.mpr hn)]
    · rw [if_neg (hn ∘ List.mem_toFinset.mp), if_neg (hn ∘ List.contains_iff_mem.mp),
        ← List.toFinset_cons, result_valueSearch, honward]

end Values

section Plans

variable {size : Bool} {onward : Query → List HookPlan}

/-- How to go on from a node, as one goes on from a query in the given frames. -/
abbrev plannerOf (onward : Query → List HookPlan) (frames : List Frame) : Planner :=
  fun selections n => onward ⟨frames, selections, n⟩

theorem result_planVariableSearch (q : Query) (s : Symbol) :
    (u.planVariableSearch q s).result onward =
      u.planVariable (plannerOf onward q.frames) q.selections s := by
  rw [planVariableSearch, planVariable]
  cases u.enumTypeOf? s with
  | some name => rfl
  | none =>
    cases s.kind with
    | parameter => rfl
    | «local» => exact (Search.result_all _).trans (List.flatMap_map ..)
    | field => exact (Search.result_all _).trans (List.flatMap_map ..)
    | enumConstant => rfl

theorem result_planInvocationSearch (q : Query) (site : Site) :
    (u.planInvocationSearch config q site).result onward =
      u.planInvocation config (plannerOf onward q.frames) q.selections site := by
  rw [planInvocationSearch, planInvocation]
  generalize (do
    let receiver ← u.receiver? site
    let name ← u.methodName? site
    return (u.unwrap config receiver, name) : Option (NodeId × String)) = selection
  cases selection.bind fun (receiver, name) =>
      (u.receiverEnum? receiver).map fun enumName => (enumName, name) with
  | some waited => rfl
  | none => cases u.methodDefinition? site <;> cases selection <;> rfl

/-- A call plans what the shape of its expression says. -/
theorem result_planSearch (q : Query) :
    (u.planSearch config size q).result onward =
      u.planShape config size (plannerOf onward q.frames) q.selections (u.expression q.node) := by
  rw [planSearch]
  cases u.expression q.node with
  | wrapped inner => rfl
  | «variable» s => exact result_planVariableSearch q s
  | member object name => rfl
  | call site =>
    cases site with
    | invocation c => exact result_planInvocationSearch q _
    | construction c =>
      simp only [planShape, planConstructionSearch, planConstruction]
      rcases u.arguments (.construction c) with _ | ⟨argument, _ | _⟩ <;> rfl
    | enumSelection c => rfl
  | arrayCreation dimensions rank elements =>
    -- only one dimension of an array of rank one is looked at
    rcases dimensions with _ | ⟨dimension, _ | _⟩
    · rfl
    · rcases rank with _ | _ | _
      · rfl
      · simp only [planShape]
        split <;> rfl
      · rfl
    · rfl
  | _ => rfl

/-- The guarded search for plans finds what the search with a path finds. -/
theorem found_planSearch (steps : Nat) (path : List NodeId) (q : Query) :
    Search.found (u.planSearch config size) steps path.toFinset q =
      u.planWithin config size steps path q.selections q.node := by
  induction steps generalizing path q with
  | zero => rfl
  | succ steps ih =>
    have honward : plannerOf (Search.found (u.planSearch config size) steps
        (q.node :: path).toFinset) q.frames = u.planWithin config size steps (q.node :: path) := by
      funext selections n
      exact ih ..
    simp only [Search.found, planWithin]
    by_cases hn : q.node ∈ path
    · rw [if_pos (List.mem_toFinset.mpr hn), if_pos (List.contains_iff_mem.mpr hn)]
    · rw [if_neg (hn ∘ List.mem_toFinset.mp), if_neg (hn ∘ List.contains_iff_mem.mp),
        ← List.toFinset_cons, result_planSearch, honward]

end Plans

end Same

/-! ## The searches stay within the tree -/

section Within

variable {u} {ρ : Type} {q : Query}

theorem asks_one (hq : q.IsOf u) {n : NodeId} (hn : n < u.tree.size) (selections : List String) :
    (Search.one ⟨q.frames, selections, n⟩ : Search ρ (List ρ)).Asks (Query.IsOf u) :=
  Search.asks_one ⟨hn, hq.arguments⟩

theorem lt_size_of_mem_valueSources {s : Symbol} {source : NodeId} (h : source ∈ u.valueSources s) :
    source < u.tree.size := by
  rcases List.mem_append.mp h with h | h
  · exact lt_size_of_initializer? (Option.mem_toList.mp h)
  · exact lt_size_of_mem_assignments h

theorem isOf_of_mem_sources (hq : q.IsOf u) (s : Symbol) :
    ∀ q' ∈ (u.valueSources s).map fun source => (⟨q.frames, q.selections, source⟩ : Query),
      q'.IsOf u := by
  intro q' h
  obtain ⟨source, hsource, rfl⟩ := List.mem_map.mp h
  exact ⟨lt_size_of_mem_valueSources hsource, hq.arguments⟩

theorem lt_size_of_argument? {frame : Frame} {s : Symbol} {argument : NodeId}
    (hframe : ∀ binding ∈ frame, binding.2 < u.tree.size) (h : frame.argument? s = some argument) :
    argument < u.tree.size := by
  obtain ⟨binding, hfind, rfl⟩ := Option.map_eq_some_iff.mp h
  exact hframe binding (List.mem_of_find?_eq_some hfind)

theorem lt_size_of_mem_frameOf (method : NodeId) (site : Site) :
    ∀ binding ∈ u.frameOf method site, binding.2 < u.tree.size :=
  fun _ h => lt_size_of_mem_arguments (List.of_mem_zip h).2

theorem unwrapWithin_lt_size (steps : Nat) {n : NodeId} (hn : n < u.tree.size) :
    u.unwrapWithin steps n < u.tree.size := by
  induction steps generalizing n with
  | zero => exact hn
  | succ steps ih =>
    rw [unwrapWithin]
    split
    · next inner hinner =>
      have hmem : inner ∈ (u.expression n).parts := by
        rw [hinner]
        exact List.mem_singleton_self inner
      exact ih (lt_size_of_mem_parts hmem)
    · exact hn

section Values

variable {config : ScanConfig} {factory : ValueFactory}

theorem flow_of_mem_variableQueries {s : Symbol} (h : u.expression q.node = .variable s) :
    ∀ q' ∈ u.variableQueries q s, Flow u factory keepNone q q' := by
  obtain ⟨frames, selections, n⟩ := q
  have hsources : ∀ q' ∈ variableQueries.bySources u ⟨frames, selections, n⟩ s,
      Flow u factory keepNone ⟨frames, selections, n⟩ q' := by
    intro q' hmem
    rw [variableQueries.bySources] at hmem
    split at hmem
    · cases hmem
    · next hkind =>
      obtain ⟨source, hsource, rfl⟩ := List.mem_map.mp hmem
      rcases List.mem_append.mp hsource with hinit | hassigned
      · exact .initializer h hkind (Option.mem_toList.mp hinit)
      · exact .assignment h hkind hassigned
  cases frames with
  | nil => exact hsources
  | cons frame outer =>
    simp only [variableQueries]
    cases hargument : frame.argument? s with
    | some argument => exact List.forall_mem_singleton.mpr (.argument h hargument)
    | none => exact hsources

theorem asks_enumSearch {declaration constant : NodeId}
    (h : u.expression q.node = .enumConstant declaration constant) :
    (u.enumSearch factory q declaration constant).Asks (Flow u factory keepNone q) := by
  obtain ⟨frames, selections, n⟩ := q
  simp only [enumSearch]
  cases hlast : selections.getLast? with
  | none => exact Search.asks_pure _
  | some selection =>
    simp only
    split
    · exact Search.asks_pure _
    · cases hargument : u.enumArgument? declaration constant selection with
      | none => exact Search.asks_pure _
      | some argument =>
        have hconcat : selections = selections.dropLast ++ [selection] :=
          (List.dropLast_append_getLast? selection hlast).symm
        refine Search.asks_one ?_
        rw [hconcat, List.dropLast_concat]
        exact .accessor h (selectsArgument_of_enumArgument? hargument)

theorem asks_returnedSearch {site : Site} (h : u.expression q.node = .call site) :
    (u.returnedSearch config q site).Asks (Flow u factory keepNone q) := by
  rw [returnedSearch]
  split
  · exact Search.asks_pure _
  · cases hmethod : u.methodDefinition? site with
    | none => exact Search.asks_pure _
    | some method =>
      refine Search.asks_all fun q' hq' => ?_
      obtain ⟨returned, hreturned, rfl⟩ := List.mem_map.mp hq'
      exact .returned h hmethod hreturned

theorem asks_invocationSearch {site : Site} (h : u.expression q.node = .call site) :
    (u.invocationSearch config q site).Asks (Flow u factory keepNone q) := by
  refine (asks_returnedSearch h).bind fun readings => ?_
  cases readings with
  | cons reading readings => exact Search.asks_pure _
  | nil =>
    simp only
    cases hreceiver : u.receiver? site with
    | none => exact Search.asks_pure _
    | some receiver =>
      cases hname : u.methodName? site with
      | none => exact Search.asks_pure _
      | some name => exact Search.asks_one (.receiver h hreceiver hname)

theorem asks_constructionSearch {c : NodeId} (h : u.expression q.node = .call (.construction c)) :
    (u.constructionSearch q (.construction c)).Asks (Flow u factory keepNone q) := by
  rw [constructionSearch]
  split
  · next argument hargument => exact Search.asks_one (.construction h hargument)
  · exact Search.asks_pure _

theorem asks_arraySearch {dimensions : List NodeId} {rank : Nat} {elements : Option Nat}
    (h : u.expression q.node = .arrayCreation dimensions rank elements) :
    (arraySearch factory q dimensions rank elements).Asks (Flow u factory keepNone q) := by
  unfold arraySearch
  split
  · exact Search.asks_pure _
  · next hsize =>
    have hsize : factory.isSize = true := by simpa using hsize
    split
    · split
      · next hrank =>
        subst hrank
        exact Search.asks_one (.dimension hsize h)
      · exact Search.asks_pure _
    · exact Search.asks_pure _
    · exact Search.asks_pure _

/-- The search for values asks where they can flow from. -/
theorem asks_flow (q : Query) :
    (u.valueSearch config factory q).Asks (Flow u factory keepNone q) := by
  rw [valueSearch]
  cases hshape : u.expression q.node with
  | literal c => exact Search.asks_pure _
  | wrapped inner => exact Search.asks_one (.wrapper hshape)
  | «variable» s => exact Search.asks_all (flow_of_mem_variableQueries hshape)
  | member object name => exact Search.asks_one (.member hshape)
  | enumConstant declaration constant => exact asks_enumSearch hshape
  | call site =>
    cases site with
    | invocation c => exact asks_invocationSearch hshape
    | construction c => exact asks_constructionSearch hshape
    | enumSelection c => exact Search.asks_pure _
  | arrayCreation dimensions rank elements => exact asks_arraySearch hshape
  | unknown => exact Search.asks_pure _

/-- A construction passes on what is found for its only argument, in either search. -/
theorem lt_size_of_single_argument {site : Site} {argument : NodeId}
    (h : u.arguments site = [argument]) : argument < u.tree.size :=
  lt_size_of_mem_arguments (h ▸ List.mem_singleton_self argument)

/-- Values flow within the tree. -/
theorem isOf_of_flow {kept : List String → List String} {q' : Query} (hq : q.IsOf u)
    (h : Flow u factory kept q q') : q'.IsOf u := by
  have hparts : ∀ c ∈ (u.expression q.node).parts, c < u.tree.size :=
    fun c => lt_size_of_mem_parts
  cases h with
  | wrapper shape => exact ⟨hparts _ (by simp [shape, Expression.parts]), hq.arguments⟩
  | initializer _ _ declared => exact ⟨lt_size_of_initializer? declared, hq.arguments⟩
  | assignment _ _ assigned => exact ⟨lt_size_of_mem_assignments assigned, hq.arguments⟩
  | argument _ bound =>
    obtain ⟨hframe, houter⟩ := List.forall_mem_cons.mp hq.arguments
    exact ⟨lt_size_of_argument? hframe bound, houter⟩
  | member shape => exact ⟨hparts _ (by simp [shape, Expression.parts]), hq.arguments⟩
  | receiver _ on _ => exact ⟨lt_size_of_receiver? on, hq.arguments⟩
  | construction _ single => exact ⟨lt_size_of_single_argument single, hq.arguments⟩
  | returned _ _ returns =>
    exact ⟨lt_size_of_mem_methodReturns returns,
      List.forall_mem_cons.mpr ⟨lt_size_of_mem_frameOf _ _, hq.arguments⟩⟩
  | accessor _ selects =>
    obtain ⟨_, -, _, _, -, -, -, hargument⟩ := selects
    exact ⟨lt_size_of_mem_enumConstantArguments (List.mem_of_getElem? hargument), hq.arguments⟩
  | dimension _ shape => exact ⟨hparts _ (by simp [shape, Expression.parts]), hq.arguments⟩

/-- The search for values asks for nodes of the tree only. -/
theorem asks_valueSearch (hq : q.IsOf u) :
    (u.valueSearch config factory q).Asks (Query.IsOf u) :=
  (asks_flow q).mono fun _ => isOf_of_flow hq

end Values

section Plans

variable {config : ScanConfig} {size : Bool}

theorem asks_planVariableSearch (hq : q.IsOf u) (s : Symbol) :
    (u.planVariableSearch q s).Asks (Query.IsOf u) := by
  rw [planVariableSearch]
  cases u.enumTypeOf? s with
  | some name => exact Search.asks_pure _
  | none =>
    cases s.kind with
    | parameter => exact Search.asks_pure _
    | «local» => exact Search.asks_all (isOf_of_mem_sources hq s)
    | field => exact Search.asks_all (isOf_of_mem_sources hq s)
    | enumConstant => exact Search.asks_pure _

theorem asks_planInvocationSearch (hq : q.IsOf u) (site : Site) :
    (u.planInvocationSearch config q site).Asks (Query.IsOf u) := by
  rw [planInvocationSearch]
  split
  · exact Search.asks_pure _
  · split
    · exact Search.asks_pure _
    · next receiver name _ hselection =>
      simp only [Option.bind_eq_bind, Option.bind_eq_some_iff] at hselection
      obtain ⟨receiver', hreceiver, name', -, heq⟩ := hselection
      obtain ⟨rfl, rfl⟩ := Prod.mk.inj (Option.some.inj heq)
      exact asks_one hq (unwrapWithin_lt_size _ (lt_size_of_receiver? hreceiver)) _
    · exact Search.asks_pure _

/-- The search for plans asks for nodes of the tree only. -/
theorem asks_planSearch (hq : q.IsOf u) :
    (u.planSearch config size q).Asks (Query.IsOf u) := by
  rw [planSearch]
  have hparts : ∀ c ∈ (u.expression q.node).parts, c < u.tree.size :=
    fun c => lt_size_of_mem_parts
  split
  · next inner hshape => exact asks_one hq (hparts inner (by simp [hshape, Expression.parts])) _
  · exact asks_planVariableSearch hq _
  · next object name hshape =>
    exact asks_one hq (hparts object (by simp [hshape, Expression.parts])) _
  · exact asks_planInvocationSearch hq _
  · rw [planConstructionSearch]
    split
    · next argument hargument => exact asks_one hq (lt_size_of_single_argument hargument) _
    · exact Search.asks_pure _
  · next dimension _ hshape =>
    split
    · exact asks_one hq (hparts dimension (by simp [hshape, Expression.parts])) _
    · exact Search.asks_pure _
  · exact Search.asks_pure _

end Plans

end Within

/-! ## Any number of searches -/

/-- A search of a unit: for the constants of an expression, for those a method can return when a
site calls it, or for what could later supply a value of an expression. -/
inductive Request where
  | value (factory : ValueFactory) (selections : List String) (n : NodeId)
  | returns (factory : ValueFactory) (selections : List String) (method : NodeId) (site : Site)
  | hooks (size : Bool) (selections : List String) (n : NodeId)

/-- What a search of a unit gives. -/
inductive Reply where
  | readings (found : List Reading)
  | plans (found : List HookPlan)
deriving DecidableEq

namespace Request

variable (config : ScanConfig)

/-- The expression that a search is for, where it is for one, is a node of the tree. -/
def IsOf (u : CompilationUnit) : Request → Prop
  | value _ _ n | hooks _ _ n => n < u.tree.size
  | returns .. => True

/-- What a search gives. -/
def reply (u : CompilationUnit) : Request → Reply
  | value factory selections n => .readings (u.resolveValue config factory selections n)
  | returns factory selections method site =>
    .readings (u.resolveReturns config factory selections method site)
  | hooks size selections n => .plans (u.planHooks config size selections n)

/-- A search behind the guard. -/
def serve (u : CompilationUnit) (fuel : Nat) : Request → Search.Guarded Reply
  | value factory selections n =>
    Reply.readings <$> Search.call (u.valueSearch config factory) config.maxResolutionDepth fuel 0
      [] ⟨[], selections, n⟩
  | returns factory selections method site =>
    Reply.readings <$> (Search.all ((u.methodReturns method).map fun returned =>
      ⟨[u.frameOf method site], selections, returned⟩)).run
        (Search.call (u.valueSearch config factory) config.maxResolutionDepth fuel 0 [])
  | hooks size selections n =>
    Reply.plans <$> Search.call (u.planSearch config size) config.maxResolutionDepth fuel 0 []
      ⟨[], selections, n⟩

end Request

section Guarded

variable {u} {config : ScanConfig} {marked : Finset NodeId} {fuel : Nat}

/-- What is known of calls that are made one within the other: the nodes of those in progress at one
time are different ones and were not marked before, so there are not more than nodes, nor more than
the depth limit allows. -/
def AreGuarded (u : CompilationUnit) (config : ScanConfig) (marked : Finset NodeId)
    (calls : List Search.Visit) : Prop :=
  ∀ v ∈ calls, v.outcome = .entered →
    (v.node :: v.above).Nodup ∧ (∀ n ∈ v.node :: v.above, n ∉ marked) ∧
      (v.node :: v.above).length ≤ min (config.maxResolutionDepth + 1) u.tree.size

theorem AreGuarded.append {calls calls' : List Search.Visit} (h : AreGuarded u config marked calls)
    (h' : AreGuarded u config marked calls') : AreGuarded u config marked (calls ++ calls') :=
  fun v hv => (List.mem_append.mp hv).elim (h v) (h' v)

section Calls

variable {ρ : Type} {body : Query → Search ρ (List ρ)}

/-- A search that stays within the tree returns. -/
theorem returns_call (hbody : ∀ q, q.IsOf u → (body q).Asks (Query.IsOf u))
    (hfuel : u.tree.size < fuel) {q : Query} (hq : q.IsOf u) :
    Search.Returns marked (Search.call body config.maxResolutionDepth fuel 0 [] q)
      (Search.found body (config.maxResolutionDepth + 1) marked q)
      (Search.visits body (config.maxResolutionDepth + 1) marked [] q) := by
  refine Search.call_eq hbody (fun q => Query.IsOf.mem_range) 0 ?_ [] hq
  have hcard : (Finset.range u.tree.size \ marked).card ≤ (Finset.range u.tree.size).card :=
    Finset.card_le_card Finset.sdiff_subset
  rw [Finset.card_range] at hcard
  exact Nat.lt_of_le_of_lt hcard hfuel

theorem areGuarded_visits (hbody : ∀ q, q.IsOf u → (body q).Asks (Query.IsOf u)) {q : Query}
    (hq : q.IsOf u) :
    AreGuarded u config marked
      (Search.visits body (config.maxResolutionDepth + 1) marked [] q) := by
  intro v hv hentered
  obtain ⟨within, heq, hnodup, hlength, hwithin⟩ :=
    Search.of_entered hbody (fun q => Query.IsOf.mem_range) hq hv hentered
  rw [List.append_nil] at heq
  rw [heq]
  refine ⟨hnodup, fun n hn => (Finset.mem_sdiff.mp (hwithin n hn)).2, le_min hlength ?_⟩
  -- different nodes of the tree are not more than there are
  have hsubset : within.toFinset ⊆ Finset.range u.tree.size := fun n hn =>
    (Finset.mem_sdiff.mp (hwithin n (List.mem_toFinset.mp hn))).1
  have hcard := Finset.card_le_card hsubset
  rwa [List.toFinset_card_of_nodup hnodup, Finset.card_range] at hcard

end Calls

/-- One search returns, its calls are guarded, and from no marks it gives what the search with a
path gives. -/
theorem exists_reply (hfuel : u.tree.size < fuel) {request : Request} (h : request.IsOf u) :
    ∃ reply calls, Search.Returns marked (request.serve config u fuel) reply calls ∧
      AreGuarded u config marked calls ∧ (marked = ∅ → reply = request.reply config u) := by
  cases request with
  | value factory selections n =>
    have hq : (⟨[], selections, n⟩ : Query).IsOf u := ⟨h, nofun⟩
    refine ⟨_, _, (returns_call (fun q => asks_valueSearch) hfuel hq).map _,
      areGuarded_visits (fun q => asks_valueSearch) hq, ?_⟩
    rintro rfl
    exact congrArg Reply.readings (found_valueSearch _ [] _)
  | returns factory selections method site =>
    have hqueries : ∀ q ∈ (u.methodReturns method).map fun returned =>
        (⟨[u.frameOf method site], selections, returned⟩ : Query), q.IsOf u := by
      intro q hq
      obtain ⟨returned, hreturned, rfl⟩ := List.mem_map.mp hq
      exact ⟨lt_size_of_mem_methodReturns hreturned,
        List.forall_mem_singleton.mpr (lt_size_of_mem_frameOf method site)⟩
    refine ⟨_, _, (Search.returns_run (fun q => returns_call (fun q => asks_valueSearch) hfuel)
      (Search.asks_all hqueries)).map _, ?_, ?_⟩
    · intro v hv
      obtain ⟨q, hq, hv⟩ := List.mem_flatMap.mp hv
      exact areGuarded_visits (fun q => asks_valueSearch)
        ((Search.asks_all hqueries).of_mem_asked hq) v hv
    · rintro rfl
      rw [Search.result_all, List.flatMap_map]
      exact congrArg (fun onward => Reply.readings ((u.methodReturns method).flatMap onward))
        (funext fun returned => found_valueSearch _ [] _)
  | hooks size selections n =>
    have hq : (⟨[], selections, n⟩ : Query).IsOf u := ⟨h, nofun⟩
    refine ⟨_, _, (returns_call (fun q => asks_planSearch) hfuel hq).map _,
      areGuarded_visits (fun q => asks_planSearch) hq, ?_⟩
    rintro rfl
    exact congrArg Reply.plans (found_planSearch _ [] _)

end Guarded

/-- **The guard against cycles is exact.**  Searches that follow one another end with no more calls
in a row than the tree has nodes, whatever the depth limit.  The calls in progress at one time are
at different nodes, so there are at most as many as nodes and as the depth limit allows.  In the end
the marks are what they were in the beginning, so from no marks every search gives what it would
give alone. -/
theorem searches_are_guarded (u : CompilationUnit) (config : ScanConfig) {requests : List Request}
    (h : ∀ request ∈ requests, request.IsOf u) (marked : Finset NodeId) {fuel : Nat}
    (hfuel : u.tree.size < fuel) :
    ∃ replies calls,
      Search.Returns marked (requests.mapM (Request.serve config u fuel)) replies calls ∧
        AreGuarded u config marked calls ∧
        (marked = ∅ → replies = requests.map (Request.reply config u)) := by
  induction requests with
  | nil => exact ⟨[], [], Search.returns_pure marked [], nofun, fun _ => rfl⟩
  | cons request requests ih =>
    obtain ⟨hrequest, hrequests⟩ := List.forall_mem_cons.mp h
    obtain ⟨reply, calls, hreturns, hguarded, hreply⟩ := exists_reply hfuel hrequest
    obtain ⟨replies, calls', hreturns', hguarded', hreplies⟩ := ih hrequests
    refine ⟨reply :: replies, calls ++ (calls' ++ []), ?_,
      hguarded.append (by rwa [List.append_nil]), fun hmarked => ?_⟩
    · rw [List.mapM_cons]
      exact hreturns.bind (hreturns'.bind (Search.returns_pure marked _))
    · rw [List.map_cons, hreply hmarked, hreplies hmarked]

end CompilationUnit

/-! ### A variable that is assigned to itself

    x = 1
    x = x
-/

namespace SelfAssigned

/-- The nodes of the program. -/
def nodes : Array SyntaxNode := #[
  ⟨none, "module", true, none, ⟨1, 1, 0, 12⟩, "x = 1\nx = x\n"⟩,
  ⟨some 0, "expression_statement", true, none, ⟨1, 1, 0, 5⟩, "x = 1"⟩,
  ⟨some 1, "assignment", true, none, ⟨1, 1, 0, 5⟩, "x = 1"⟩,
  ⟨some 2, "identifier", true, some "left", ⟨1, 1, 0, 1⟩, "x"⟩,
  ⟨some 2, "=", false, none, ⟨1, 3, 2, 3⟩, "="⟩,
  ⟨some 2, "integer", true, some "right", ⟨1, 5, 4, 5⟩, "1"⟩,
  ⟨some 0, "expression_statement", true, none, ⟨2, 1, 6, 11⟩, "x = x"⟩,
  ⟨some 6, "assignment", true, none, ⟨2, 1, 6, 11⟩, "x = x"⟩,
  ⟨some 7, "identifier", true, some "left", ⟨2, 1, 6, 7⟩, "x"⟩,
  ⟨some 7, "=", false, none, ⟨2, 3, 8, 9⟩, "="⟩,
  ⟨some 7, "identifier", true, some "right", ⟨2, 5, 10, 11⟩, "x"⟩]

/-- The unit with the program. -/
def unit : CompilationUnit where
  language := .python
  filePath := "m.py"
  tree := { nodes, parent_lt := by decide +kernel }

/-- The value of the last `x`, what it waits for, and its value once more. -/
def requests : List CompilationUnit.Request :=
  [.value .keyBits [] 10, .hooks false [] 10, .value .keyBits [] 10]

end SelfAssigned

set_option maxRecDepth 100000 in
/-- The cycle does not hide the value, and the first search does not hide it from the last. -/
theorem CompilationUnit.cyclic_searches_return :
    (∀ request ∈ SelfAssigned.requests, request.IsOf SelfAssigned.unit) ∧
      SelfAssigned.unit.tree.size < 12 ∧
      ∃ calls, Search.Returns ∅
        (SelfAssigned.requests.mapM (Request.serve {} SelfAssigned.unit 12))
        [.readings [⟨.int 1, 5⟩], .plans [], .readings [⟨.int 1, 5⟩]] calls := by
  have hnode : 10 < SelfAssigned.unit.tree.size := by decide
  have hrequests : ∀ request ∈ SelfAssigned.requests, request.IsOf SelfAssigned.unit :=
    List.forall_mem_cons.mpr ⟨hnode, List.forall_mem_cons.mpr ⟨hnode,
      List.forall_mem_singleton.mpr hnode⟩⟩
  have hfuel : SelfAssigned.unit.tree.size < 12 := by decide
  have hreplies : SelfAssigned.requests.map (Request.reply {} SelfAssigned.unit) =
      [.readings [⟨.int 1, 5⟩], .plans [], .readings [⟨.int 1, 5⟩]] := by decide +kernel
  obtain ⟨replies, calls, hreturns, -, heq⟩ :=
    searches_are_guarded SelfAssigned.unit {} hrequests ∅ hfuel
  exact ⟨hrequests, hfuel, calls, hreplies ▸ heq rfl ▸ hreturns⟩

end CryptoUsage
