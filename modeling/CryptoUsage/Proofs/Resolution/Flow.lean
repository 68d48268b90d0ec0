import CryptoUsage.Detection.Resolution
import Mathlib.Data.List.Basic

/-!
# The flow of values

Where can the value of an expression come from?  `Flow` says it one step at a time and without a
search: a variable has the value of its initializer or of an assignment, a parameter that of the
argument in the frames of the caller, a selection that of the object with the name recorded, and
so on.  `Derives` follows such steps to a constant that stands in the program.

Everything that `resolveValue` and `resolveReturns` return is derived in this way.  The proof has
one lemma for each shape of expression; each says that a resolver for the shape returns derived
readings if the one it goes on with does, so frames and selections cannot get from one branch into
another.

An array creation does not keep the selections that were recorded before it, so the length of an
array is its size.  The relation has a parameter for what is kept: with `keepNone` it is what the
search does, and with everything kept it would say too little (`not_readings_derived`).

## Reading the relation

A `Query` bundles what a value is looked for: an expression, the frames of the methods that were
entered, and the selections recorded so far, outermost first.  `Yields` has the three kinds of
constants that a flow can end in, which are literals, names of enum constants and numbers of
elements, each after the recorded selections are made on it.  Read backwards, a derived reading
stands at a node of one of these shapes (`Derives.node_shape`) and has the kind that the factory
expects (`Derives.kind`).
-/

set_option autoImplicit false

namespace CryptoUsage

/-! ## Constants -/

namespace Constant

/-- The last selection of a list is made first. -/
theorem selectAll?_concat (c : Constant) (selections : List String) (selection : String) :
    c.selectAll? (selections ++ [selection]) =
      (c.select? selection).bind fun value => value.selectAll? selections := by
  induction selections with
  | nil =>
    rw [List.nil_append, selectAll?, selectAll?, Option.bind_some]
    cases c.select? selection <;> rfl
  | cons outer selections ih =>
    rw [List.cons_append, selectAll?, ih]
    cases c.select? selection <;> rfl

/-- Selecting the name of a text, or the text itself, changes nothing. -/
theorem select?_str_of_name {selection : String} (h : selection = "name" ∨ selection = "toString")
    (s : String) : (str s).select? selection = some (str s) := by
  rcases h with rfl | rfl <;> rfl

/-- A cast gives the kind that is wanted. -/
theorem kind_of_cast? {c value : Constant} {wanted : ConstantKind}
    (h : c.cast? wanted = some value) :
    wanted = .any ∨ value.kind = wanted := by
  rw [cast?.eq_def] at h
  split at h
  · exact .inl rfl
  · obtain rfl := Option.some.inj h
    exact .inr rfl
  · obtain ⟨n, -, rfl⟩ := Option.map_eq_some_iff.mp h
    exact .inr rfl
  · cases h
  · obtain rfl := Option.some.inj h
    exact .inr rfl
  · obtain rfl := Option.some.inj h
    exact .inr rfl
  · obtain rfl := Option.some.inj h
    exact .inr rfl
  · obtain rfl := Option.some.inj h
    exact .inr rfl
  · cases h
  · cases h

end Constant

/-! ## The relation -/

/-- What a value is looked for: an expression in the frames of the methods that were entered, with
the selections that were recorded, outermost first. -/
structure Query where
  frames : List Frame
  selections : List String
  node : NodeId

namespace CompilationUnit

variable (u : CompilationUnit) (factory : ValueFactory) (kept : List String → List String)

/-- An accessor such as `getKeySize` selects the argument that an enum constant passes for a
constructor parameter of that name. -/
def SelectsArgument (declaration constant : NodeId) (selection : String) (argument : NodeId) :
    Prop :=
  ∃ parameters ∈ u.enumConstructorParameters declaration, ∃ (position : Nat) (parameter : String),
    parameters.length = (u.enumConstantArguments constant).length ∧
      parameters[position]? = some parameter ∧ isAccessorOf parameter selection = true ∧
      (u.enumConstantArguments constant)[position]? = some argument

/-- An expression has the value of another one.  The recorded selections that an array creation
keeps are given by `kept`. -/
inductive Flow : Query → Query → Prop
  /-- A wrapper has the value of what is inside it. -/
  | wrapper {frames selections n inner} (shape : u.expression n = .wrapped inner) :
    Flow ⟨frames, selections, n⟩ ⟨frames, selections, inner⟩
  /-- A variable has the value that it is declared with. -/
  | initializer {frames selections n s source} (shape : u.expression n = .variable s)
    (free : s.kind ≠ .parameter) (declared : u.initializer? s = some source) :
    Flow ⟨frames, selections, n⟩ ⟨frames, selections, source⟩
  /-- A variable has the value of a plain assignment to it. -/
  | assignment {frames selections n s source} (shape : u.expression n = .variable s)
    (free : s.kind ≠ .parameter) (assigned : source ∈ u.assignments s) :
    Flow ⟨frames, selections, n⟩ ⟨frames, selections, source⟩
  /-- A bound parameter has the value of its argument, which is looked for in the frames of the
  caller. -/
  | argument {frame outer selections n s source} (shape : u.expression n = .variable s)
    (bound : frame.argument? s = some source) :
    Flow ⟨frame :: outer, selections, n⟩ ⟨outer, selections, source⟩
  /-- A member is selected on its object. -/
  | member {frames selections n object name} (shape : u.expression n = .member object name) :
    Flow ⟨frames, selections, n⟩ ⟨frames, selections ++ [name], object⟩
  /-- A method is selected on its receiver. -/
  | receiver {frames selections n site receiver name} (shape : u.expression n = .call site)
    (on : u.receiver? site = some receiver) (called : u.methodName? site = some name) :
    Flow ⟨frames, selections, n⟩ ⟨frames, selections ++ [name], receiver⟩
  /-- A construction with one argument has the value of that. -/
  | construction {frames selections n c argument} (shape : u.expression n = .call (.construction c))
    (single : u.arguments (.construction c) = [argument]) :
    Flow ⟨frames, selections, n⟩ ⟨frames, selections, argument⟩
  /-- A call of a method of the unit has the value of what that returns, where the parameters of the
  method are bound to the arguments of the call. -/
  | returned {frames selections n site method source} (shape : u.expression n = .call site)
    (defined : u.methodDefinition? site = some method) (returns : source ∈ u.methodReturns method) :
    Flow ⟨frames, selections, n⟩ ⟨u.frameOf method site :: frames, selections, source⟩
  /-- An accessor selects an argument of an enum constant. -/
  | accessor {frames selections selection n declaration constant argument}
    (shape : u.expression n = .enumConstant declaration constant)
    (selects : u.SelectsArgument declaration constant selection argument) :
    Flow ⟨frames, selections ++ [selection], n⟩ ⟨frames, selections, argument⟩
  /-- The size of an array is that of its only dimension. -/
  | dimension {frames selections n dimension elements} (size : factory.isSize = true)
    (shape : u.expression n = .arrayCreation [dimension] 1 elements) :
    Flow ⟨frames, selections, n⟩ ⟨frames, kept selections, dimension⟩

/-- A constant that stands in the program at a node, after the recorded selections are made on
it. -/
inductive Yields : Query → Constant → NodeId → Prop
  | literal {frames selections n c value} (shape : u.expression n = .literal c)
    (selected : c.selectAll? selections = some value) : Yields ⟨frames, selections, n⟩ value n
  | constantName {frames selections n declaration constant value}
    (shape : u.expression n = .enumConstant declaration constant)
    (selected : (Constant.str (u.constantName constant)).selectAll? selections = some value) :
    Yields ⟨frames, selections, n⟩ value constant
  | elementCount {frames selections n rank count value} (size : factory.isSize = true)
    (shape : u.expression n = .arrayCreation [] rank (some count))
    (selected : (Constant.int (Int64.ofNat count)).selectAll? (kept selections) = some value) :
    Yields ⟨frames, selections, n⟩ value n

/-- A reading is derived for what is looked for: it is the constant at the end of the flow, cast to
what the factory expects. -/
inductive Derives : Query → Reading → Prop
  | source {query value constant n} (yields : Yields u factory kept query value n)
    (cast : value.cast? factory.expected = some constant) : Derives query ⟨constant, n⟩
  | step {query query' reading} (flow : Flow u factory kept query query')
    (derives : Derives query' reading) : Derives query reading

variable {u factory kept}

/-- A derived reading has the kind that the factory expects. -/
theorem Derives.kind {query : Query} {reading : Reading}
    (h : Derives u factory kept query reading) :
    factory.expected = .any ∨ reading.constant.kind = factory.expected := by
  induction h with
  | source _ hcast => exact Constant.kind_of_cast? hcast
  | step _ _ ih => exact ih

/-- A derived reading is read off a literal, a constant of an enum or an array. -/
theorem Derives.node_shape {query : Query} {reading : Reading}
    (h : Derives u factory kept query reading) :
    (∃ c, u.expression reading.node = .literal c) ∨
      (∃ n declaration, u.expression n = .enumConstant declaration reading.node) ∨
      ∃ rank count, u.expression reading.node = .arrayCreation [] rank (some count) := by
  induction h with
  | source yields _ =>
    cases yields with
    | literal shape _ => exact .inl ⟨_, shape⟩
    | constantName shape _ => exact .inr (.inl ⟨_, _, shape⟩)
    | elementCount _ shape _ => exact .inr (.inr ⟨_, _, shape⟩)
  | step _ _ ih => exact ih

/-! ## Resolvers -/

/-- An array creation keeps no selections. -/
def keepNone : List String → List String := fun _ => []

variable (u factory) in
/-- A resolver returns derived readings. -/
def DerivesAll (onward : Resolver) : Prop :=
  ∀ ⦃frames selections n reading⦄, reading ∈ onward frames selections n →
    Derives u factory keepNone ⟨frames, selections, n⟩ reading

variable {onward : Resolver} {config : ScanConfig} {frames : List Frame} {selections : List String}
  {n : NodeId} {reading : Reading}

theorem mem_readingOf {c : Constant} (h : reading ∈ readingOf factory selections c n) :
    reading.node = n ∧ ∃ value, c.selectAll? selections = some value ∧
      value.cast? factory.expected = some reading.constant := by
  obtain ⟨constant, hconstant, rfl⟩ := Option.map_eq_some_iff.mp (Option.mem_toList.mp h)
  obtain ⟨value, hvalue, hcast⟩ := Option.bind_eq_some_iff.mp hconstant
  exact ⟨rfl, value, hvalue, hcast⟩

/-- What stands in the program is read as it is. -/
theorem derives_of_mem_readingOf {c : Constant} {origin : NodeId}
    (hyields : ∀ value, c.selectAll? selections = some value →
      Yields u factory keepNone ⟨frames, selections, n⟩ value origin)
    (h : reading ∈ readingOf factory selections c origin) :
    Derives u factory keepNone ⟨frames, selections, n⟩ reading := by
  obtain ⟨hnode, value, hvalue, hcast⟩ := mem_readingOf h
  obtain ⟨constant, node⟩ := reading
  cases hnode
  exact .source (hyields value hvalue) hcast

theorem derives_variable (honward : DerivesAll u factory onward) {s : Symbol}
    (hshape : u.expression n = .variable s)
    (h : reading ∈ u.resolveVariable onward frames selections s) :
    Derives u factory keepNone ⟨frames, selections, n⟩ reading := by
  have hsources : reading ∈ resolveVariable.bySources u onward frames selections s →
      Derives u factory keepNone ⟨frames, selections, n⟩ reading := by
    intro h
    rw [resolveVariable.bySources] at h
    split at h
    · cases h
    · next hkind =>
      obtain ⟨source, hsource, hmem⟩ := List.mem_flatMap.mp h
      rcases List.mem_append.mp hsource with hinit | hassigned
      · exact .step (.initializer hshape hkind (Option.mem_toList.mp hinit)) (honward hmem)
      · exact .step (.assignment hshape hkind hassigned) (honward hmem)
  rw [resolveVariable.eq_def] at h
  split at h
  · split at h
    · next hbound => exact .step (.argument hshape hbound) (honward h)
    · exact hsources h
  · exact hsources h

theorem selectsArgument_of_enumArgument? {declaration constant argument : NodeId}
    {selection : String} (h : u.enumArgument? declaration constant selection = some argument) :
    u.SelectsArgument declaration constant selection argument := by
  obtain ⟨position, hposition, hargument⟩ := Option.bind_eq_some_iff.mp h
  obtain ⟨parameters, hparameters, hindex⟩ := List.exists_of_findSome?_eq_some hposition
  obtain ⟨hmem, hlength⟩ := List.mem_filter.mp hparameters
  obtain ⟨hlt, haccesses, -⟩ := List.findIdx?_eq_some_iff_getElem.mp hindex
  exact ⟨parameters, hmem, position, parameters[position], beq_iff_eq.mp hlength,
    List.getElem?_eq_getElem hlt, haccesses, hargument⟩

theorem derives_enumConstant (honward : DerivesAll u factory onward)
    {declaration constant : NodeId} (hshape : u.expression n = .enumConstant declaration constant)
    (h : reading ∈ u.resolveEnumConstant factory onward frames selections declaration constant) :
    Derives u factory keepNone ⟨frames, selections, n⟩ reading := by
  rw [resolveEnumConstant] at h
  split at h
  · next hnone =>
    obtain rfl := List.getLast?_eq_none_iff.mp hnone
    exact derives_of_mem_readingOf (fun value hvalue => .constantName hshape hvalue) h
  · next selection hlast =>
    have hconcat : selections = selections.dropLast ++ [selection] :=
      (List.dropLast_append_getLast? selection hlast).symm
    split at h
    · next hname =>
      obtain ⟨hnode, value, hvalue, hcast⟩ := mem_readingOf h
      obtain ⟨value', node⟩ := reading
      cases hnode
      refine .source (.constantName hshape ?_) hcast
      rw [hconcat, Constant.selectAll?_concat, Constant.select?_str_of_name hname]
      exact hvalue
    · split at h
      · next argument hargument =>
        rw [hconcat]
        exact .step (.accessor hshape (selectsArgument_of_enumArgument? hargument)) (honward h)
      · cases h

theorem derives_returned (honward : DerivesAll u factory onward) {site : Site}
    (hshape : u.expression n = .call site)
    (h : reading ∈ u.resolveReturned config onward frames selections site) :
    Derives u factory keepNone ⟨frames, selections, n⟩ reading := by
  rw [resolveReturned] at h
  split at h
  · cases h
  · split at h
    · next method hmethod =>
      obtain ⟨source, hsource, hmem⟩ := List.mem_flatMap.mp h
      exact .step (.returned hshape hmethod hsource) (honward hmem)
    · cases h

theorem derives_invocation (honward : DerivesAll u factory onward) {site : Site}
    (hshape : u.expression n = .call site)
    (h : reading ∈ u.resolveInvocation config onward frames selections site) :
    Derives u factory keepNone ⟨frames, selections, n⟩ reading := by
  rw [resolveInvocation] at h
  split at h
  · split at h
    · next receiver name hreceiver hname =>
      exact .step (.receiver hshape hreceiver hname) (honward h)
    · cases h
  · exact derives_returned honward hshape h

theorem derives_construction (honward : DerivesAll u factory onward) {c : NodeId}
    (hshape : u.expression n = .call (.construction c))
    (h : reading ∈ u.resolveConstruction onward frames selections (.construction c)) :
    Derives u factory keepNone ⟨frames, selections, n⟩ reading := by
  rw [resolveConstruction] at h
  split at h
  · next argument hsingle => exact .step (.construction hshape hsingle) (honward h)
  · cases h

theorem derives_array (honward : DerivesAll u factory onward) {dimensions : List NodeId}
    {rank : Nat} {elements : Option Nat}
    (hshape : u.expression n = .arrayCreation dimensions rank elements)
    (h : reading ∈ resolveArray factory onward frames n dimensions rank elements) :
    Derives u factory keepNone ⟨frames, selections, n⟩ reading := by
  rw [resolveArray.eq_def] at h
  split at h
  · cases h
  · next hsize =>
    have hsize : factory.isSize = true := by simpa using hsize
    split at h
    · next dimension _ =>
      split at h
      · next hrank =>
        subst hrank
        exact .step (.dimension hsize hshape) (honward h)
      · cases h
    · next count =>
      obtain ⟨hnode, value, hvalue, hcast⟩ := mem_readingOf h
      obtain ⟨value', node⟩ := reading
      cases hnode
      exact .source (.elementCount hsize hshape hvalue) hcast
    · cases h

/-- Every shape of expression is resolved along the flow. -/
theorem derives_shape (honward : DerivesAll u factory onward)
    (h : reading ∈ u.resolveShape config factory onward frames selections n (u.expression n)) :
    Derives u factory keepNone ⟨frames, selections, n⟩ reading := by
  cases hshape : u.expression n with
  | literal c =>
    rw [hshape] at h
    exact derives_of_mem_readingOf (fun value hvalue => .literal hshape hvalue) h
  | «variable» s =>
    rw [hshape] at h
    exact derives_variable honward hshape h
  | member object name =>
    rw [hshape] at h
    exact .step (.member hshape) (honward h)
  | enumConstant declaration constant =>
    rw [hshape] at h
    exact derives_enumConstant honward hshape h
  | call site =>
    rw [hshape] at h
    cases site with
    | invocation c => exact derives_invocation honward hshape h
    | construction c => exact derives_construction honward hshape h
    | enumSelection c => cases h
  | arrayCreation dimensions rank elements =>
    rw [hshape] at h
    exact derives_array honward hshape h
  | wrapped inner =>
    rw [hshape] at h
    exact .step (.wrapper hshape) (honward h)
  | unknown =>
    rw [hshape] at h
    cases h

/-- Whatever was entered before, and within any number of steps. -/
theorem derivesAll_resolveWithin (u : CompilationUnit) (config : ScanConfig)
    (factory : ValueFactory) (steps : Nat) (path : List NodeId) :
    DerivesAll u factory (u.resolveWithin config factory steps path) := by
  induction steps generalizing path with
  | zero =>
    intro frames selections n reading h
    cases h
  | succ steps ih =>
    intro frames selections n reading h
    simp only [resolveWithin] at h
    split at h
    · cases h
    · exact derives_shape (ih (n :: path)) h

/-- **Whatever is resolved flows there**: every reading of an expression, and every reading of what
a method returns to a caller, is derived from a constant that stands in the program, and has the
kind that the factory expects. -/
theorem readings_derived (u : CompilationUnit) (config : ScanConfig) (factory : ValueFactory)
    (selections : List String) :
    (∀ n, ∀ reading ∈ u.resolveValue config factory selections n,
      Derives u factory keepNone ⟨[], selections, n⟩ reading ∧
        (factory.expected = .any ∨ reading.constant.kind = factory.expected)) ∧
    (∀ method site, ∀ reading ∈ u.resolveReturns config factory selections method site,
      ∃ source ∈ u.methodReturns method,
        Derives u factory keepNone ⟨[u.frameOf method site], selections, source⟩ reading ∧
          (factory.expected = .any ∨ reading.constant.kind = factory.expected)) := by
  have hall := derivesAll_resolveWithin u config factory (config.maxResolutionDepth + 1) []
  constructor
  · intro n reading h
    have hderives := hall h
    exact ⟨hderives, hderives.kind⟩
  · intro method site reading h
    obtain ⟨source, hsource, hmem⟩ := List.mem_flatMap.mp h
    have hderives := hall hmem
    exact ⟨source, hsource, hderives, hderives.kind⟩

/-! ## Reading the relation backwards -/

variable {query : Query}

/-- A reading of a member is one of its object. -/
theorem Derives.of_member {object : NodeId} {name : String}
    (h : Derives u factory kept query reading)
    (hshape : u.expression query.node = .member object name) :
    Derives u factory kept ⟨query.frames, query.selections ++ [name], object⟩ reading := by
  cases h with
  | source yields _ => cases yields <;> simp_all
  | step flow derives => cases flow <;> simp_all

/-- Outside all methods, a reading of a variable is one of what it gets its values from. -/
theorem Derives.of_variable {s : Symbol} (h : Derives u factory kept query reading)
    (hshape : u.expression query.node = .variable s) (hframes : query.frames = []) :
    ∃ source ∈ u.valueSources s, Derives u factory kept ⟨[], query.selections, source⟩ reading := by
  cases h with
  | source yields _ => cases yields <;> simp_all
  | step flow derives =>
    cases flow with
    | initializer shape _ declared =>
      cases shape.symm.trans hshape
      cases hframes
      exact ⟨_, List.mem_append_left _ (Option.mem_toList.mpr declared), derives⟩
    | assignment shape _ assigned =>
      cases shape.symm.trans hshape
      cases hframes
      exact ⟨_, List.mem_append_right _ assigned, derives⟩
    | argument => cases hframes
    | _ => simp_all

/-- A reading of a list counts its elements. -/
theorem Derives.of_list {count : Nat} (h : Derives u factory kept query reading)
    (hshape : u.expression query.node = .arrayCreation [] 1 (some count)) :
    ((Constant.int (Int64.ofNat count)).selectAll? (kept query.selections)).isSome = true := by
  cases h with
  | source yields _ => cases yields <;> simp_all
  | step flow derives => cases flow <;> simp_all

/-! ## The length of a list

In this program something is selected on a list:

    x = [1]
    f(x.length)
-/

namespace Measured

/-- The nodes of the program. -/
def nodes : Array SyntaxNode := #[
  ⟨none, "module", true, none, ⟨1, 1, 0, 20⟩, "x = [1]\nf(x.length)\n"⟩,
  ⟨some 0, "expression_statement", true, none, ⟨1, 1, 0, 7⟩, "x = [1]"⟩,
  ⟨some 1, "assignment", true, none, ⟨1, 1, 0, 7⟩, "x = [1]"⟩,
  ⟨some 2, "identifier", true, some "left", ⟨1, 1, 0, 1⟩, "x"⟩,
  ⟨some 2, "=", false, none, ⟨1, 3, 2, 3⟩, "="⟩,
  ⟨some 2, "list", true, some "right", ⟨1, 5, 4, 7⟩, "[1]"⟩,
  ⟨some 5, "[", false, none, ⟨1, 5, 4, 5⟩, "["⟩,
  ⟨some 5, "integer", true, none, ⟨1, 6, 5, 6⟩, "1"⟩,
  ⟨some 5, "]", false, none, ⟨1, 7, 6, 7⟩, "]"⟩,
  ⟨some 0, "expression_statement", true, none, ⟨2, 1, 8, 19⟩, "f(x.length)"⟩,
  ⟨some 9, "call", true, none, ⟨2, 1, 8, 19⟩, "f(x.length)"⟩,
  ⟨some 10, "identifier", true, some "function", ⟨2, 1, 8, 9⟩, "f"⟩,
  ⟨some 10, "argument_list", true, some "arguments", ⟨2, 2, 9, 19⟩, "(x.length)"⟩,
  ⟨some 12, "(", false, none, ⟨2, 2, 9, 10⟩, "("⟩,
  ⟨some 12, "attribute", true, none, ⟨2, 3, 10, 18⟩, "x.length"⟩,
  ⟨some 14, "identifier", true, some "object", ⟨2, 3, 10, 11⟩, "x"⟩,
  ⟨some 14, ".", false, none, ⟨2, 4, 11, 12⟩, "."⟩,
  ⟨some 14, "identifier", true, some "attribute", ⟨2, 5, 12, 18⟩, "length"⟩,
  ⟨some 12, ")", false, none, ⟨2, 11, 18, 19⟩, ")"⟩]

/-- The unit with the program. -/
def unit : CompilationUnit where
  language := .python
  filePath := "m.py"
  tree := { nodes, parent_lt := by decide +kernel }

/-- The list. -/
def list : NodeId := 5

/-- What is selected on it. -/
def selected : NodeId := 14

/-- The number of elements, read off the list. -/
def count : Reading := ⟨.int 1, list⟩

/-- The variable. -/
def x : Symbol := ⟨"x", 3, .local⟩

set_option maxRecDepth 100000 in
/-- Where a size is wanted, the list is counted. -/
theorem count_mem : count ∈ unit.resolveValue {} .keyBits [] selected := by decide +kernel

set_option maxRecDepth 100000 in
theorem expression_selected : unit.expression selected = .member 15 "length" := by decide +kernel

set_option maxRecDepth 100000 in
theorem expression_object : unit.expression 15 = .variable x := by decide +kernel

set_option maxRecDepth 100000 in
theorem sources_x : unit.initializer? x = some list ∧ unit.assignments x = [] := by decide +kernel

set_option maxRecDepth 100000 in
theorem expression_list : unit.expression list = .arrayCreation [] 1 (some 1) := by decide +kernel

end Measured

/-- **Not all selections are kept**: if an array creation kept those that were recorded, the number
of elements would not be derived for a length, since nothing is known of the length of a number. -/
theorem not_readings_derived : ¬ ∀ (u : CompilationUnit) (config : ScanConfig)
    (factory : ValueFactory) (selections : List String) (n : NodeId),
    ∀ reading ∈ u.resolveValue config factory selections n,
      Derives u factory id ⟨[], selections, n⟩ reading := by
  intro h
  have hmember := (h _ _ _ _ _ _ Measured.count_mem).of_member Measured.expression_selected
  obtain ⟨source, hsource, hlist⟩ := hmember.of_variable Measured.expression_object rfl
  rw [valueSources, Measured.sources_x.1, Measured.sources_x.2] at hsource
  obtain rfl := List.mem_singleton.mp hsource
  exact absurd (hlist.of_list Measured.expression_list) (by decide)

/-- The number of elements is derived for the length. -/
theorem derives_count :
    Measured.count ∈ Measured.unit.resolveValue {} .keyBits [] Measured.selected ∧
    Derives Measured.unit .keyBits keepNone ⟨[], [], Measured.selected⟩ Measured.count :=
  ⟨Measured.count_mem,
    ((readings_derived Measured.unit {} .keyBits []).1 _ _ Measured.count_mem).1⟩

end CompilationUnit
end CryptoUsage
