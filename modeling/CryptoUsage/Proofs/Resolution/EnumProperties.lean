import CryptoUsage.Proofs.FrontEnd.Arguments
import CryptoUsage.Proofs.FrontEnd.Operands
import CryptoUsage.Proofs.Resolution.Selections
import CryptoUsage.Proofs.Resolution.Transparency

/-!
# Properties of enum constants

A constant of an enum such as `A("x")` passes arguments to the constructor of the enum.  What is
selected on the constant, by a member access such as `E.A.size` or a call such as `E.A.getSize()`,
is the argument for the parameter of that name (`isAccessorOf`).  Of two parameters whose names can
be told apart, a selection is the accessor of one only (`findIdx?_isAccessorOf`).

The selection has the values that the argument has by itself (`enum_properties_resolve`).  The nodes
from the selection down to the constant are marked while the argument is looked at, but that makes
no difference.  They are operands, so a search can only come to them from the selection itself, with
the name recorded (`Remembers`); it is then about the same argument again, where it is marked.

The names `name` and `toString` are taken for the calls that give the name of the constant, also in
a member access.  Where the constructor has a parameter of such a name, `E.A.name` is the name of
the constant and not the argument (`name_is_no_property`).
-/

set_option autoImplicit false

namespace CryptoUsage

/-! ## Accessors -/

theorem Text.agreesIgnoringAsciiCase_iff {s t : String} :
    agreesIgnoringAsciiCase s t = true ↔
      s.toList.map Char.toLower = t.toList.map Char.toLower := beq_iff_eq

/-- A selection is the accessor of a parameter if it is its name, or its name after `get`. -/
theorem isAccessorOf_iff {parameter selection : String} :
    isAccessorOf parameter selection = true ↔
      Text.agreesIgnoringAsciiCase selection parameter = true ∨
        ∃ rest, selection = "get" ++ rest ∧ Text.agreesIgnoringAsciiCase rest parameter = true := by
  rw [isAccessorOf, Bool.or_eq_true, Option.any_eq_true]
  refine or_congr_right ⟨?_, ?_⟩
  · rintro ⟨rest, hrest, hagrees⟩
    refine ⟨String.ofList rest, String.toList_injective ?_, hagrees⟩
    rw [Text.dropPrefix?_eq_some_iff.mp hrest, String.toList_append,
      @String.toList_ofList rest]
    rfl
  · rintro ⟨rest, rfl, hagrees⟩
    refine ⟨rest.toList, Text.dropPrefix?_eq_some_iff.mpr ?_, by rwa [String.ofList_toList]⟩
    rw [String.toList_append]
    rfl

/-- Parameters with one accessor are called the same, or one is called like the other's getter. -/
theorem agrees_of_isAccessorOf {p q selection : String} (hp : isAccessorOf p selection = true)
    (hq : isAccessorOf q selection = true) :
    Text.agreesIgnoringAsciiCase p q = true ∨
      Text.agreesIgnoringAsciiCase p ("get" ++ q) = true ∨
      Text.agreesIgnoringAsciiCase q ("get" ++ p) = true := by
  simp only [isAccessorOf_iff, Text.agreesIgnoringAsciiCase_iff, String.toList_append,
    List.map_append] at *
  rcases hp with hp | ⟨rest, rfl, hp⟩ <;> rcases hq with hq | ⟨rest', heq, hq⟩
  · exact .inl (hp.symm.trans hq)
  · subst heq
    refine .inr (.inl (hp.symm.trans ?_))
    rw [String.toList_append, List.map_append, hq]
  · refine .inr (.inr (hq.symm.trans ?_))
    rw [String.toList_append, List.map_append, hp]
  · have hrest : rest.toList = rest'.toList := by
      have hlists := congrArg String.toList heq
      rw [String.toList_append, String.toList_append] at hlists
      exact List.append_cancel_left hlists
    exact .inl (hp.symm.trans (hrest ▸ hq))

namespace CompilationUnit

/-- An enum has one constructor, and the names of the parameters can be told apart: no two are the
same, and none is that of another's getter. -/
structure HasProperties (u : CompilationUnit) (declaration : NodeId) (parameters : List String) :
    Prop where
  constructor_eq : u.enumConstructorParameters declaration = [parameters]
  distinct : parameters.Pairwise fun p q => Text.agreesIgnoringAsciiCase p q = false
  notGetter : ∀ p ∈ parameters, ∀ q ∈ parameters,
    Text.agreesIgnoringAsciiCase p ("get" ++ q) = false

variable {u : CompilationUnit} {config : ScanConfig} {factory : ValueFactory}
  {n object core w declaration constant argument : NodeId} {selection : String}
  {parameters : List String} {count count' steps : Nat}

/-- A selection is the accessor of one parameter only. -/
theorem HasProperties.findIdx?_isAccessorOf (h : u.HasProperties declaration parameters) {i : Nat}
    {p : String} (hp : parameters[i]? = some p) (haccessor : isAccessorOf p selection = true) :
    parameters.findIdx? (fun parameter => isAccessorOf parameter selection) = some i := by
  obtain ⟨hi, rfl⟩ := List.getElem?_eq_some_iff.mp hp
  refine List.findIdx?_eq_some_iff_getElem.mpr ⟨hi, haccessor, fun j hj haccessor' => ?_⟩
  have hmem := List.getElem_mem hi
  have hmem' := List.getElem_mem (Nat.lt_trans hj hi)
  rcases agrees_of_isAccessorOf haccessor' haccessor with hsame | hgetter | hgetter
  · have hdifferent := List.pairwise_iff_getElem.mp h.distinct j i (Nat.lt_trans hj hi) hi hj
    exact Bool.false_ne_true (hdifferent.symm.trans hsame)
  · exact Bool.false_ne_true ((h.notGetter _ hmem' _ hmem).symm.trans hgetter)
  · exact Bool.false_ne_true ((h.notGetter _ hmem _ hmem').symm.trans hgetter)

theorem HasProperties.enumArgument?_eq (h : u.HasProperties declaration parameters)
    (hlength : (u.enumConstantArguments constant).length = parameters.length) :
    u.enumArgument? declaration constant selection =
      (parameters.findIdx? fun parameter => isAccessorOf parameter selection).bind fun position =>
        (u.enumConstantArguments constant)[position]? := by
  have hfitting : ([parameters].filter fun parameters =>
      parameters.length == (u.enumConstantArguments constant).length) = [parameters] := by
    rw [List.filter_singleton, hlength, beq_self_eq_true]
    rfl
  rw [enumArgument?, h.constructor_eq, hfitting, List.findSome?_singleton]
  rfl

/-! ## Selections on a constant -/

/-- A node selects a name on an expression, by a member access that is taken for nothing else or by
a call. -/
inductive Selects (u : CompilationUnit) (n object : NodeId) (name : String) : Prop
  | access (isAccess : u.access? n = some (object, name)) (isPlain : u.namesDeclared n = false)
  | call (isCall : u.expression n = .call (.invocation n))
      (receiver_eq : u.receiver? (.invocation n) = some object)
      (name_eq : u.methodName? (.invocation n) = some name)

/-- A node selects a name on a constant of an enum, which may stand in parentheses and casts. -/
structure SelectsOnConstant (u : CompilationUnit) (config : ScanConfig)
    (n object declaration constant : NodeId) (name : String) : Prop where
  selects : u.Selects n object name
  isConstant : u.expression (u.unwrap config object) = .enumConstant declaration constant

theorem Selects.operand?_eq (h : u.Selects n object selection) :
    u.operand? n = some (object, [selection]) := by
  cases h with
  | access isAccess isPlain =>
    simp only [operand?, expression_of_access? isAccess isPlain]
  | call isCall receiver_eq name_eq => exact operand?_of_call isCall receiver_eq name_eq

/-- A selection on a constant only passes on to the constant, also where the enum has a method of
the name. -/
theorem SelectsOnConstant.valueSearch_eq
    (h : u.SelectsOnConstant config n object declaration constant selection) {q : Query}
    (hq : q.node = n) :
    u.valueSearch config factory q =
      Search.one ⟨q.frames, q.selections ++ [selection], object⟩ := by
  cases h.selects with
  | access isAccess isPlain =>
    simp only [valueSearch, hq, expression_of_access? isAccess isPlain]
  | call isCall receiver_eq name_eq =>
    have hconstant : u.isOnEnumConstant config (.invocation n) = true := by
      simp only [isOnEnumConstant, receiver_eq, Option.any_some, h.isConstant]
    have hreturned : u.returnedSearch config q (.invocation n) = pure [] := if_pos hconstant
    rw [valueSearch, hq, isCall]
    simp only [invocationSearch, hreturned, receiver_eq, name_eq]
    rfl

theorem valueSearch_of_wrapped {inner : NodeId} (h : u.expression n = .wrapped inner) {q : Query}
    (hq : q.node = n) :
    u.valueSearch config factory q = Search.one ⟨q.frames, q.selections, inner⟩ := by
  simp only [valueSearch, hq, h]

section Constant

variable (hconstant : u.expression n = .enumConstant declaration constant)
  (hspecial : selection ≠ "name" ∧ selection ≠ "toString")

include hconstant hspecial

/-- A constant passes on to the argument that is selected on it. -/
theorem valueSearch_of_argument
    (h : u.enumArgument? declaration constant selection = some argument) (frames : List Frame)
    (earlier : List String) :
    u.valueSearch config factory ⟨frames, earlier ++ [selection], n⟩ =
      Search.one ⟨frames, earlier, argument⟩ := by
  have hother : ¬(selection = "name" ∨ selection = "toString") := not_or.mpr hspecial
  simp only [valueSearch, hconstant, enumSearch, List.getLast?_concat, if_neg hother, h,
    List.dropLast_concat]

/-- Nothing is found for a selection on a constant that is no accessor. -/
theorem found_of_no_argument (h : u.enumArgument? declaration constant selection = none)
    (frames : List Frame) (earlier : List String) (steps : Nat) (marked : Finset NodeId) :
    Search.found (u.valueSearch config factory) steps marked
      ⟨frames, earlier ++ [selection], n⟩ = [] := by
  have hother : ¬(selection = "name" ∨ selection = "toString") := not_or.mpr hspecial
  have hbody : u.valueSearch config factory ⟨frames, earlier ++ [selection], n⟩ = pure [] := by
    simp only [valueSearch, hconstant, enumSearch, List.getLast?_concat, if_neg hother, h]
  cases steps with
  | zero => rfl
  | succ steps => rw [Search.found, hbody, Search.result_pure, ite_self]

end Constant

/-! ## The way down to the constant -/

theorem Encloses.eq_or_exists (h : u.Encloses count object core) :
    core = object ∨ ∃ count' w, u.Encloses count' object w ∧ u.expression w = .wrapped core := by
  induction h with
  | here n => exact .inl rfl
  | inside isWrapped _ ih =>
    rcases ih with rfl | ⟨count', w, hw, hwrapped⟩
    · exact .inr ⟨0, _, .here _, isWrapped⟩
    · exact .inr ⟨count' + 1, w, .inside isWrapped hw, hwrapped⟩

/-- From every node on the way, the way goes on to its end. -/
theorem Encloses.exists_rest (h : u.Encloses count object w) (hcore : u.Encloses count' object core)
    (hend : ∀ inner, u.expression core ≠ .wrapped inner) : ∃ more, u.Encloses more w core := by
  induction h generalizing count' with
  | here n => exact ⟨count', hcore⟩
  | inside isWrapped _ ih =>
    cases hcore with
    | here => exact absurd isWrapped (hend _)
    | inside isWrapped' hcore =>
      cases isWrapped.symm.trans isWrapped'
      exact ih hcore

/-- Everything on the way is an operand. -/
theorem Selects.exists_operand? (h : u.Selects n object selection)
    (hw : u.Encloses count object w) : ∃ m names, u.operand? m = some (w, names) := by
  rcases hw.eq_or_exists with rfl | ⟨_, m, -, hwrapped⟩
  · exact ⟨n, _, h.operand?_eq⟩
  · exact ⟨m, [], by simp only [operand?, hwrapped]⟩

theorem Encloses.relays (h : u.Encloses count w core) (frames : List Frame)
    (selections : List String) :
    Relation.ReflTransGen (fun q q' => u.valueSearch config factory q = Search.one q')
      ⟨frames, selections, w⟩ ⟨frames, selections, core⟩ := by
  induction h with
  | here n => exact .refl
  | inside isWrapped _ ih => exact .head (valueSearch_of_wrapped isWrapped rfl) ih

/-- The search goes the way down within as many steps, marking what is on it. -/
theorem Encloses.exists_found (h : u.Encloses count w core) {frames : List Frame}
    {selections : List String} {marked : Finset NodeId} {above : List NodeId}
    (hmarked : ∀ m ∈ marked, m < w)
    (hfull : ∀ v ∈ Search.visits (u.valueSearch config factory) steps marked above
      ⟨frames, selections, w⟩, v.outcome ≠ .tooDeep) :
    ∃ fewer marked' above', fewer ≤ steps ∧
      (∀ m ∈ marked', m < core ∧ (m ∈ marked ∨ ∃ count', u.Encloses count' w m)) ∧
      Search.found (u.valueSearch config factory) steps marked ⟨frames, selections, w⟩ =
        Search.found (u.valueSearch config factory) fewer marked' ⟨frames, selections, core⟩ ∧
      ∀ v ∈ Search.visits (u.valueSearch config factory) fewer marked' above'
        ⟨frames, selections, core⟩, v.outcome ≠ .tooDeep := by
  induction h generalizing steps marked above with
  | here n =>
    exact ⟨steps, marked, above, Nat.le_refl _, fun m hm => ⟨hmarked m hm, .inl hm⟩, rfl, hfull⟩
  | @inside w inner core count isWrapped _ ih =>
    have hnew : w ∉ marked := fun hw => Nat.lt_irrefl w (hmarked w hw)
    have hlt : w < inner := u.tree.parent?_lt (parent?_of_wrapped isWrapped)
    obtain ⟨fewer, rfl, hfound, hfull'⟩ := Search.exists_found_of_relay
      (valueSearch_of_wrapped isWrapped rfl) hnew hfull
    have hmarked' : ∀ m ∈ insert w marked, m < inner := fun m hm => by
      rcases Finset.mem_insert.mp hm with rfl | hm
      · exact hlt
      · exact Nat.lt_trans (hmarked m hm) hlt
    obtain ⟨fewer', marked', above', hle, hpath, hfound', hfull''⟩ := ih hmarked' hfull'
    refine ⟨fewer', marked', above', Nat.le_succ_of_le hle, fun m hm => ?_,
      hfound.trans hfound', hfull''⟩
    obtain ⟨hm, hmem | ⟨count', hw⟩⟩ := hpath m hm
    · rcases Finset.mem_insert.mp hmem with rfl | hmem
      · exact ⟨hm, .inr ⟨0, .here _⟩⟩
      · exact ⟨hm, .inl hmem⟩
    · exact ⟨hm, .inr ⟨count' + 1, .inside isWrapped hw⟩⟩

/-! ## Where the way is met again -/

/-- A query that comes to a node on the way has the name recorded. -/
structure Remembers (u : CompilationUnit) (object : NodeId) (name : String) (q : Query) : Prop where
  bindFree : u.BindFree q.frames
  exists_earlier : ∀ count, u.Encloses count object q.node →
    ∃ earlier, q.selections = earlier ++ [name]

section Java

variable (hjava : u.language = .java) (hlists : Java.ListsArguments u.tree)

include hjava hlists

/-- Whatever the search asks next, the name stays recorded. -/
theorem Remembers.of_flow (h : u.Selects n object selection) {q q' : Query}
    (hq : u.Remembers object selection q) {kept : List String → List String}
    (hflow : Flow u factory kept q q') : u.Remembers object selection q' := by
  obtain ⟨hfree, hfrom⟩ := hflow.operand_or_free hjava hlists hq.bindFree
  refine ⟨hfree, fun count hw => ?_⟩
  rcases hfrom with ⟨names, hoperand, hselections⟩ | hnone
  · -- the node is the operand of the one before, which is the selection or also on the way
    rcases hw.eq_or_exists with heq | ⟨count', w, hw', hwrapped⟩
    · obtain ⟨-, rfl⟩ := operand?_inj hjava (heq ▸ hoperand) h.operand?_eq
      exact ⟨q.selections, hselections⟩
    · have hoperand' : u.operand? w = some (q'.node, []) := by simp only [operand?, hwrapped]
      obtain ⟨rfl, rfl⟩ := operand?_inj hjava hoperand hoperand'
      rw [hselections, List.append_nil]
      exact hq.exists_earlier count' hw'
  · obtain ⟨m, names, hoperand⟩ := h.exists_operand? hw
    exact absurd hoperand (hnone m names)

theorem not_encloses_argument (h : u.Selects n object selection)
    (hargument : argument ∈ u.enumConstantArguments constant) :
    ¬ u.Encloses count object argument := by
  intro hw
  obtain ⟨m, names, hoperand⟩ := h.exists_operand? hw
  exact isFree_of_mem_enumConstantArguments hjava hlists hargument m names hoperand

end Java

namespace SelectsOnConstant

variable (h : u.SelectsOnConstant config n object declaration constant selection)
  (hspecial : selection ≠ "name" ∧ selection ≠ "toString") {later : List String}

include h hspecial

/-- Once the argument is marked, nothing is found at the selection or on the way from it to the
constant. -/
theorem found_eq_nil (hargument : u.enumArgument? declaration constant selection = some argument)
    {q : Query} (hq : u.Remembers object selection q)
    (hnode : q.node = n ∨ ∃ count, u.Encloses count object q.node) {marked : Finset NodeId}
    (hmarked : argument ∈ marked) :
    Search.found (u.valueSearch config factory) steps marked q = [] := by
  obtain ⟨count, -, hcore⟩ := u.exists_encloses config.maxResolutionDepth object
  have hend : ∀ inner, u.expression (u.unwrap config object) ≠ .wrapped inner := fun inner => by
    rw [h.isConstant]
    exact Expression.noConfusion
  have hway : ∀ {count w earlier}, u.Encloses count w (u.unwrap config object) →
      Relation.ReflTransGen (fun q q' => u.valueSearch config factory q = Search.one q')
        ⟨q.frames, earlier ++ [selection], w⟩ ⟨q.frames, earlier, argument⟩ := fun hw =>
    (hw.relays q.frames _).tail (valueSearch_of_argument h.isConstant hspecial hargument _ _)
  have hnone : ∀ earlier steps others, marked ⊆ others →
      Search.found (u.valueSearch config factory) steps others
        ⟨q.frames, earlier, argument⟩ = [] :=
    fun _ _ _ hsubset => Search.found_eq_nil (hsubset hmarked)
  rcases hnode with hn | ⟨count', hw⟩
  · exact Search.found_eq_nil_of_relays (.head (h.valueSearch_eq hn) (hway hcore)) (hnone _)
  · obtain ⟨earlier, hselections⟩ := hq.exists_earlier count' hw
    obtain ⟨more, hrest⟩ := hw.exists_rest hcore hend
    obtain ⟨frames, selections, node⟩ := q
    obtain rfl : selections = earlier ++ [selection] := hselections
    exact Search.found_eq_nil_of_relays (hway hrest) (hnone _)

/-! ## The values of a property -/

/-- A selection that is no accessor has no values. -/
theorem resolveValue_eq_nil (hnone : u.enumArgument? declaration constant selection = none)
    (later : List String) : u.resolveValue config factory later n = [] := by
  obtain ⟨count, -, hcore⟩ := u.exists_encloses config.maxResolutionDepth object
  refine (found_valueSearch _ [] ⟨[], later, n⟩).symm.trans ?_
  exact Search.found_eq_nil_of_relays (.head (h.valueSearch_eq rfl) (hcore.relays [] _))
    fun steps others _ => found_of_no_argument h.isConstant hspecial hnone [] later steps others

section Accessor

variable (hargument : u.enumArgument? declaration constant selection = some argument)
  (hfull : u.ResolvesFully config factory later n)

include hargument hfull

/-- The search for the values of an accessor comes to the argument, with the nodes on the way
marked. -/
theorem exists_found (hobject : n < object) :
    ∃ fewer marked above, fewer ≤ config.maxResolutionDepth + 1 ∧
      (∀ m ∈ marked, m = n ∨ ∃ count, u.Encloses count object m) ∧
      u.resolveValue config factory later n =
        Search.found (u.valueSearch config factory) fewer marked ⟨[], later, argument⟩ ∧
      ∀ v ∈ Search.visits (u.valueSearch config factory) fewer marked above
        ⟨[], later, argument⟩, v.outcome ≠ .tooDeep := by
  obtain ⟨count, -, hcore⟩ := u.exists_encloses config.maxResolutionDepth object
  obtain ⟨steps, hsteps, hfound, hfull₁⟩ := Search.exists_found_of_relay
    (h.valueSearch_eq rfl) (Finset.notMem_empty n) hfull
  have hmarked : ∀ m ∈ insert n (∅ : Finset NodeId), m < object := fun m hm => by
    obtain rfl : m = n := by simpa using hm
    exact hobject
  obtain ⟨fewer, marked, above, hle, hpath, hfound₁, hfull₂⟩ := hcore.exists_found hmarked hfull₁
  have hnew : u.unwrap config object ∉ marked := fun hm => Nat.lt_irrefl _ (hpath _ hm).1
  obtain ⟨last, rfl, hfound₂, hfull₃⟩ := Search.exists_found_of_relay
    (valueSearch_of_argument h.isConstant hspecial hargument [] later) hnew hfull₂
  refine ⟨last, _, _, by omega, fun m hm => ?_, ?_, hfull₃⟩
  · rcases Finset.mem_insert.mp hm with rfl | hm
    · exact .inr ⟨count, hcore⟩
    · rcases (hpath m hm).2 with hm | hw
      · exact .inl (by simpa using hm)
      · exact .inr hw
  · refine (found_valueSearch _ [] ⟨[], later, n⟩).symm.trans ?_
    exact hfound.trans (hfound₁.trans hfound₂)

/-- An accessor has the values of the argument, if the search does not come too deep. -/
theorem resolveValue_eq (hjava : u.language = .java) (hlists : Java.ListsArguments u.tree) :
    u.resolveValue config factory later n = u.resolveValue config factory later argument := by
  have hobject : n < object := u.tree.parent?_lt (parent?_of_operand? hjava h.selects.operand?_eq)
  obtain ⟨fewer, marked, above, hle, hway, hfound, hfull'⟩ :=
    h.exists_found hspecial hargument hfull hobject
  by_cases heq : argument = n
  · rw [heq]
  have hmem : argument ∈ u.enumConstantArguments constant := by
    obtain ⟨_, -, _, _, -, -, -, hmem⟩ := selectsArgument_of_enumArgument? hargument
    exact List.mem_of_getElem? hmem
  have hfar : ∀ count, ¬ u.Encloses count object argument := fun count =>
    not_encloses_argument hjava hlists h.selects hmem
  have hstart : u.Remembers object selection ⟨[], later, argument⟩ :=
    ⟨nofun, fun count hw => absurd hw (hfar count)⟩
  have hunmarked : argument ∉ marked := fun hm => by
    rcases hway argument hm with hn | ⟨count, hw⟩
    · exact heq hn
    · exact hfar count hw
  calc u.resolveValue config factory later n
      = Search.found (u.valueSearch config factory) fewer marked ⟨[], later, argument⟩ := hfound
    _ = Search.found (u.valueSearch config factory) (config.maxResolutionDepth + 1) (∅ ∪ marked)
          ⟨[], later, argument⟩ := by
        rw [← Search.found_add hfull' (config.maxResolutionDepth + 1 - fewer),
          Nat.add_sub_cancel' hle, Finset.empty_union]
    _ = Search.found (u.valueSearch config factory) (config.maxResolutionDepth + 1) ∅
          ⟨[], later, argument⟩ :=
        Search.found_union_from
          (fun q hq => (asks_flow q).mono fun q' => hq.of_flow hjava hlists h.selects)
          (fun q hq hnode steps others hother =>
            h.found_eq_nil hspecial hargument hq (hway _ hnode) hother)
          hstart rfl hunmarked
    _ = u.resolveValue config factory later argument := found_valueSearch _ [] _

end Accessor

end SelectsOnConstant

variable (config factory) in
/-- **The properties of an enum constant are its arguments.**  Let an enum of a Java unit have one
constructor with parameters that can be told apart, and let something be selected on a constant with
as many arguments, but not under the names `name` and `toString`.  If the selection is the accessor
of a parameter, it has the values of the argument in its place, with any factory and whatever is
selected on it `later`, provided that no call of the search comes too deep.  If it is the accessor
of no parameter, it has no values. -/
theorem enum_properties_resolve (hjava : u.language = .java)
    (hlists : Java.ListsArguments u.tree)
    (h : u.SelectsOnConstant config n object declaration constant selection)
    (hproperties : u.HasProperties declaration parameters)
    (hlength : (u.enumConstantArguments constant).length = parameters.length)
    (hspecial : selection ≠ "name" ∧ selection ≠ "toString") (later : List String) :
    (∀ (i : Nat) (parameter : String) (argument : NodeId), parameters[i]? = some parameter →
      (u.enumConstantArguments constant)[i]? = some argument →
      isAccessorOf parameter selection = true → u.ResolvesFully config factory later n →
        u.resolveValue config factory later n = u.resolveValue config factory later argument) ∧
    ((∀ parameter ∈ parameters, isAccessorOf parameter selection = false) →
      u.resolveValue config factory later n = []) := by
  have hargument : u.enumArgument? declaration constant selection = _ :=
    hproperties.enumArgument?_eq hlength
  constructor
  · intro i parameter argument hparameter hplace haccessor hfull
    rw [hproperties.findIdx?_isAccessorOf hparameter haccessor, Option.bind_some, hplace]
      at hargument
    exact h.resolveValue_eq hspecial hargument hfull hjava hlists
  · intro hnone
    rw [List.findIdx?_eq_none_iff.mpr hnone] at hargument
    exact h.resolveValue_eq_nil hspecial hargument later

end CompilationUnit

/-! ### An enum with a name of its own

    class C {
        void m() {
            f(E.A.name, E.A.getName(), E.A.ordinal());
        }
    }
    enum E {
        A("x");
        final String name;
        E(String name) { this.name = name; }
        String getName() { return name; }
    }
-/

namespace Named

/-- The nodes of the program. -/
def nodes : Array SyntaxNode := #[
  ⟨none, "program", true, none, ⟨1, 1, 0, 209⟩,
    "class C \x7b\n    void m() \x7b\n        f(E.A.name, E.A.getName(), E.A.ordinal());\n    \x7d\n\x7d\nenum E \x7b\n    A(\"x\");\n    final String name;\n    E(String name) \x7b this.name = name; \x7d\n    String getName() \x7b return name; \x7d\n\x7d\n"⟩,
  ⟨some 0, "class_declaration", true, none, ⟨1, 1, 0, 83⟩,
    "class C \x7b\n    void m() \x7b\n        f(E.A.name, E.A.getName(), E.A.ordinal());\n    \x7d\n\x7d"⟩,
  ⟨some 1, "class", false, none, ⟨1, 1, 0, 5⟩, "class"⟩,
  ⟨some 1, "identifier", true, some "name", ⟨1, 7, 6, 7⟩, "C"⟩,
  ⟨some 1, "class_body", true, some "body", ⟨1, 9, 8, 83⟩,
    "\x7b\n    void m() \x7b\n        f(E.A.name, E.A.getName(), E.A.ordinal());\n    \x7d\n\x7d"⟩,
  ⟨some 4, "\x7b", false, none, ⟨1, 9, 8, 9⟩, "\x7b"⟩,
  ⟨some 4, "method_declaration", true, none, ⟨2, 5, 14, 81⟩,
    "void m() \x7b\n        f(E.A.name, E.A.getName(), E.A.ordinal());\n    \x7d"⟩,
  ⟨some 6, "void_type", true, some "type", ⟨2, 5, 14, 18⟩, "void"⟩,
  ⟨some 6, "identifier", true, some "name", ⟨2, 10, 19, 20⟩, "m"⟩,
  ⟨some 6, "formal_parameters", true, some "parameters", ⟨2, 11, 20, 22⟩, "()"⟩,
  ⟨some 9, "(", false, none, ⟨2, 11, 20, 21⟩, "("⟩,
  ⟨some 9, ")", false, none, ⟨2, 12, 21, 22⟩, ")"⟩,
  ⟨some 6, "block", true, some "body", ⟨2, 14, 23, 81⟩,
    "\x7b\n        f(E.A.name, E.A.getName(), E.A.ordinal());\n    \x7d"⟩,
  ⟨some 12, "\x7b", false, none, ⟨2, 14, 23, 24⟩, "\x7b"⟩,
  ⟨some 12, "expression_statement", true, none, ⟨3, 9, 33, 75⟩,
    "f(E.A.name, E.A.getName(), E.A.ordinal());"⟩,
  ⟨some 14, "method_invocation", true, none, ⟨3, 9, 33, 74⟩,
    "f(E.A.name, E.A.getName(), E.A.ordinal())"⟩,
  ⟨some 15, "identifier", true, some "name", ⟨3, 9, 33, 34⟩, "f"⟩,
  ⟨some 15, "argument_list", true, some "arguments", ⟨3, 10, 34, 74⟩,
    "(E.A.name, E.A.getName(), E.A.ordinal())"⟩,
  ⟨some 17, "(", false, none, ⟨3, 10, 34, 35⟩, "("⟩,
  ⟨some 17, "field_access", true, none, ⟨3, 11, 35, 43⟩, "E.A.name"⟩,
  ⟨some 19, "field_access", true, some "object", ⟨3, 11, 35, 38⟩, "E.A"⟩,
  ⟨some 20, "identifier", true, some "object", ⟨3, 11, 35, 36⟩, "E"⟩,
  ⟨some 20, ".", false, none, ⟨3, 12, 36, 37⟩, "."⟩,
  ⟨some 20, "identifier", true, some "field", ⟨3, 13, 37, 38⟩, "A"⟩,
  ⟨some 19, ".", false, none, ⟨3, 14, 38, 39⟩, "."⟩,
  ⟨some 19, "identifier", true, some "field", ⟨3, 15, 39, 43⟩, "name"⟩,
  ⟨some 17, ",", false, none, ⟨3, 19, 43, 44⟩, ","⟩,
  ⟨some 17, "method_invocation", true, none, ⟨3, 21, 45, 58⟩, "E.A.getName()"⟩,
  ⟨some 27, "field_access", true, some "object", ⟨3, 21, 45, 48⟩, "E.A"⟩,
  ⟨some 28, "identifier", true, some "object", ⟨3, 21, 45, 46⟩, "E"⟩,
  ⟨some 28, ".", false, none, ⟨3, 22, 46, 47⟩, "."⟩,
  ⟨some 28, "identifier", true, some "field", ⟨3, 23, 47, 48⟩, "A"⟩,
  ⟨some 27, ".", false, none, ⟨3, 24, 48, 49⟩, "."⟩,
  ⟨some 27, "identifier", true, some "name", ⟨3, 25, 49, 56⟩, "getName"⟩,
  ⟨some 27, "argument_list", true, some "arguments", ⟨3, 32, 56, 58⟩, "()"⟩,
  ⟨some 34, "(", false, none, ⟨3, 32, 56, 57⟩, "("⟩,
  ⟨some 34, ")", false, none, ⟨3, 33, 57, 58⟩, ")"⟩,
  ⟨some 17, ",", false, none, ⟨3, 34, 58, 59⟩, ","⟩,
  ⟨some 17, "method_invocation", true, none, ⟨3, 36, 60, 73⟩, "E.A.ordinal()"⟩,
  ⟨some 38, "field_access", true, some "object", ⟨3, 36, 60, 63⟩, "E.A"⟩,
  ⟨some 39, "identifier", true, some "object", ⟨3, 36, 60, 61⟩, "E"⟩,
  ⟨some 39, ".", false, none, ⟨3, 37, 61, 62⟩, "."⟩,
  ⟨some 39, "identifier", true, some "field", ⟨3, 38, 62, 63⟩, "A"⟩,
  ⟨some 38, ".", false, none, ⟨3, 39, 63, 64⟩, "."⟩,
  ⟨some 38, "identifier", true, some "name", ⟨3, 40, 64, 71⟩, "ordinal"⟩,
  ⟨some 38, "argument_list", true, some "arguments", ⟨3, 47, 71, 73⟩, "()"⟩,
  ⟨some 45, "(", false, none, ⟨3, 47, 71, 72⟩, "("⟩,
  ⟨some 45, ")", false, none, ⟨3, 48, 72, 73⟩, ")"⟩,
  ⟨some 17, ")", false, none, ⟨3, 49, 73, 74⟩, ")"⟩,
  ⟨some 14, ";", false, none, ⟨3, 50, 74, 75⟩, ";"⟩,
  ⟨some 12, "\x7d", false, none, ⟨4, 5, 80, 81⟩, "\x7d"⟩,
  ⟨some 4, "\x7d", false, none, ⟨5, 1, 82, 83⟩, "\x7d"⟩,
  ⟨some 0, "enum_declaration", true, none, ⟨6, 1, 84, 208⟩,
    "enum E \x7b\n    A(\"x\");\n    final String name;\n    E(String name) \x7b this.name = name; \x7d\n    String getName() \x7b return name; \x7d\n\x7d"⟩,
  ⟨some 52, "enum", false, none, ⟨6, 1, 84, 88⟩, "enum"⟩,
  ⟨some 52, "identifier", true, some "name", ⟨6, 6, 89, 90⟩, "E"⟩,
  ⟨some 52, "enum_body", true, some "body", ⟨6, 8, 91, 208⟩,
    "\x7b\n    A(\"x\");\n    final String name;\n    E(String name) \x7b this.name = name; \x7d\n    String getName() \x7b return name; \x7d\n\x7d"⟩,
  ⟨some 55, "\x7b", false, none, ⟨6, 8, 91, 92⟩, "\x7b"⟩,
  ⟨some 55, "enum_constant", true, none, ⟨7, 5, 97, 103⟩, "A(\"x\")"⟩,
  ⟨some 57, "identifier", true, some "name", ⟨7, 5, 97, 98⟩, "A"⟩,
  ⟨some 57, "argument_list", true, some "arguments", ⟨7, 6, 98, 103⟩, "(\"x\")"⟩,
  ⟨some 59, "(", false, none, ⟨7, 6, 98, 99⟩, "("⟩,
  ⟨some 59, "string_literal", true, none, ⟨7, 7, 99, 102⟩, "\"x\""⟩,
  ⟨some 61, "\"", false, none, ⟨7, 7, 99, 100⟩, "\""⟩,
  ⟨some 61, "string_fragment", true, none, ⟨7, 8, 100, 101⟩, "x"⟩,
  ⟨some 61, "\"", false, none, ⟨7, 9, 101, 102⟩, "\""⟩,
  ⟨some 59, ")", false, none, ⟨7, 10, 102, 103⟩, ")"⟩,
  ⟨some 55, "enum_body_declarations", true, none, ⟨7, 11, 103, 206⟩,
    ";\n    final String name;\n    E(String name) \x7b this.name = name; \x7d\n    String getName() \x7b return name; \x7d"⟩,
  ⟨some 66, ";", false, none, ⟨7, 11, 103, 104⟩, ";"⟩,
  ⟨some 66, "field_declaration", true, none, ⟨8, 5, 109, 127⟩, "final String name;"⟩,
  ⟨some 68, "modifiers", true, none, ⟨8, 5, 109, 114⟩, "final"⟩,
  ⟨some 69, "final", false, none, ⟨8, 5, 109, 114⟩, "final"⟩,
  ⟨some 68, "type_identifier", true, some "type", ⟨8, 11, 115, 121⟩, "String"⟩,
  ⟨some 68, "variable_declarator", true, some "declarator", ⟨8, 18, 122, 126⟩, "name"⟩,
  ⟨some 72, "identifier", true, some "name", ⟨8, 18, 122, 126⟩, "name"⟩,
  ⟨some 68, ";", false, none, ⟨8, 22, 126, 127⟩, ";"⟩,
  ⟨some 66, "constructor_declaration", true, none, ⟨9, 5, 132, 168⟩,
    "E(String name) \x7b this.name = name; \x7d"⟩,
  ⟨some 75, "identifier", true, some "name", ⟨9, 5, 132, 133⟩, "E"⟩,
  ⟨some 75, "formal_parameters", true, some "parameters", ⟨9, 6, 133, 146⟩, "(String name)"⟩,
  ⟨some 77, "(", false, none, ⟨9, 6, 133, 134⟩, "("⟩,
  ⟨some 77, "formal_parameter", true, none, ⟨9, 7, 134, 145⟩, "String name"⟩,
  ⟨some 79, "type_identifier", true, some "type", ⟨9, 7, 134, 140⟩, "String"⟩,
  ⟨some 79, "identifier", true, some "name", ⟨9, 14, 141, 145⟩, "name"⟩,
  ⟨some 77, ")", false, none, ⟨9, 18, 145, 146⟩, ")"⟩,
  ⟨some 75, "constructor_body", true, some "body", ⟨9, 20, 147, 168⟩,
    "\x7b this.name = name; \x7d"⟩,
  ⟨some 83, "\x7b", false, none, ⟨9, 20, 147, 148⟩, "\x7b"⟩,
  ⟨some 83, "expression_statement", true, none, ⟨9, 22, 149, 166⟩, "this.name = name;"⟩,
  ⟨some 85, "assignment_expression", true, none, ⟨9, 22, 149, 165⟩, "this.name = name"⟩,
  ⟨some 86, "field_access", true, some "left", ⟨9, 22, 149, 158⟩, "this.name"⟩,
  ⟨some 87, "this", true, some "object", ⟨9, 22, 149, 153⟩, "this"⟩,
  ⟨some 87, ".", false, none, ⟨9, 26, 153, 154⟩, "."⟩,
  ⟨some 87, "identifier", true, some "field", ⟨9, 27, 154, 158⟩, "name"⟩,
  ⟨some 86, "=", false, some "operator", ⟨9, 32, 159, 160⟩, "="⟩,
  ⟨some 86, "identifier", true, some "right", ⟨9, 34, 161, 165⟩, "name"⟩,
  ⟨some 85, ";", false, none, ⟨9, 38, 165, 166⟩, ";"⟩,
  ⟨some 83, "\x7d", false, none, ⟨9, 40, 167, 168⟩, "\x7d"⟩,
  ⟨some 66, "method_declaration", true, none, ⟨10, 5, 173, 206⟩,
    "String getName() \x7b return name; \x7d"⟩,
  ⟨some 95, "type_identifier", true, some "type", ⟨10, 5, 173, 179⟩, "String"⟩,
  ⟨some 95, "identifier", true, some "name", ⟨10, 12, 180, 187⟩, "getName"⟩,
  ⟨some 95, "formal_parameters", true, some "parameters", ⟨10, 19, 187, 189⟩, "()"⟩,
  ⟨some 98, "(", false, none, ⟨10, 19, 187, 188⟩, "("⟩,
  ⟨some 98, ")", false, none, ⟨10, 20, 188, 189⟩, ")"⟩,
  ⟨some 95, "block", true, some "body", ⟨10, 22, 190, 206⟩, "\x7b return name; \x7d"⟩,
  ⟨some 101, "\x7b", false, none, ⟨10, 22, 190, 191⟩, "\x7b"⟩,
  ⟨some 101, "return_statement", true, none, ⟨10, 24, 192, 204⟩, "return name;"⟩,
  ⟨some 103, "return", false, none, ⟨10, 24, 192, 198⟩, "return"⟩,
  ⟨some 103, "identifier", true, none, ⟨10, 31, 199, 203⟩, "name"⟩,
  ⟨some 103, ";", false, none, ⟨10, 35, 203, 204⟩, ";"⟩,
  ⟨some 101, "\x7d", false, none, ⟨10, 37, 205, 206⟩, "\x7d"⟩,
  ⟨some 55, "\x7d", false, none, ⟨11, 1, 207, 208⟩, "\x7d"⟩]

/-- The unit with the program. -/
def unit : CompilationUnit where
  language := .java
  filePath := "C.java"
  tree := { nodes, parent_lt := by decide +kernel }

set_option maxRecDepth 100000 in
theorem hasProperties : unit.HasProperties 52 ["name"] :=
  ⟨by decide +kernel, by decide, by decide⟩

set_option maxRecDepth 100000 in
theorem listsArguments : Java.ListsArguments unit.tree := by decide +kernel

set_option maxRecDepth 100000 in
/-- What is selected by the member access and by the calls, all on the constant. -/
theorem selections :
    (unit.access? 19 = some (20, "name") ∧ unit.namesDeclared 19 = false) ∧
      (∀ call ∈ [(27, 28, "getName"), (38, 39, "ordinal")],
        unit.expression call.1 = .call (.invocation call.1) ∧
          unit.receiver? (.invocation call.1) = some call.2.1 ∧
          unit.methodName? (.invocation call.1) = some call.2.2) ∧
      ∀ object ∈ [20, 28, 39],
        unit.expression (unit.unwrap {} object) = .enumConstant 52 57 := by decide +kernel

theorem selectsOnConstant {n object : NodeId} {name : String}
    (h : (n, object, name) ∈ [(27, 28, "getName"), (38, 39, "ordinal")])
    (hobject : object ∈ [20, 28, 39]) : unit.SelectsOnConstant {} n object 52 57 name := by
  obtain ⟨hcall, hreceiver, hname⟩ := selections.2.1 _ h
  exact ⟨.call hcall hreceiver hname, selections.2.2 object hobject⟩

set_option maxRecDepth 100000 in
/-- The constant has one argument.  The search for the values comes nowhere too deep, the argument
is a text, and the member access has the name of the constant. -/
theorem values :
    unit.enumConstantArguments 57 = [61] ∧
      (∀ n ∈ [19, 27], unit.ResolvesFully {} .algorithm [] n) ∧
      unit.resolveValue {} .algorithm [] 61 = [⟨.str "x", 61⟩] ∧
      unit.resolveValue {} .algorithm [] 19 = [⟨.str "A", 57⟩] := by decide +kernel

theorem argument : (unit.enumConstantArguments 57)[0]? = some 61 ∧
    (unit.enumConstantArguments 57).length = ["name"].length := by
  rw [values.1]
  exact ⟨rfl, rfl⟩

end Named

namespace CompilationUnit

open Named in
/-- The getter has the value of the argument, although the enum has a method of that name, and the
position of the constant is no property. -/
theorem getter_has_argument :
    unit.resolveValue {} .algorithm [] 27 = [⟨.str "x", 61⟩] ∧
      unit.resolveValue {} .algorithm [] 38 = [] := by
  obtain ⟨-, hfull, hvalue, -⟩ := values
  have hgetter := (enum_properties_resolve {} .algorithm rfl listsArguments
    (selectsOnConstant (by decide) (by decide) : unit.SelectsOnConstant {} 27 28 52 57 "getName")
    hasProperties argument.2 (by decide) []).1 0 "name" 61 rfl argument.1 (by decide)
      (hfull 27 (by decide))
  have hordinal := (enum_properties_resolve {} .algorithm rfl listsArguments
    (selectsOnConstant (by decide) (by decide) : unit.SelectsOnConstant {} 38 39 52 57 "ordinal")
    hasProperties argument.2 (by decide) []).2 (by decide)
  exact ⟨hgetter.trans hvalue, hordinal⟩

open Named in
/-- **A parameter called `name` is no property**: the member access `E.A.name` has the name of the
constant instead of the argument. -/
theorem name_is_no_property : ¬ ∀ (u : CompilationUnit) (config : ScanConfig)
    (factory : ValueFactory) (n object declaration constant argument : NodeId)
    (parameters : List String) (i : Nat) (parameter : String),
    u.language = .java → Java.ListsArguments u.tree →
    u.access? n = some (object, parameter) → u.namesDeclared n = false →
    u.expression (u.unwrap config object) = .enumConstant declaration constant →
    u.HasProperties declaration parameters →
    (u.enumConstantArguments constant).length = parameters.length →
    parameters[i]? = some parameter →
    (u.enumConstantArguments constant)[i]? = some argument →
    u.ResolvesFully config factory [] n →
      u.resolveValue config factory [] n = u.resolveValue config factory [] argument := by
  intro h
  obtain ⟨⟨haccess, hplain⟩, -, hconstant⟩ := selections
  obtain ⟨-, hfull, hvalue, hname⟩ := values
  have hsame := h unit {} .algorithm 19 20 52 57 61 ["name"] 0 "name" rfl listsArguments haccess
    hplain (hconstant 20 (by decide)) hasProperties argument.2 rfl argument.1 (hfull 19 (by decide))
  rw [hname, hvalue] at hsame
  exact absurd hsame (by decide)

end CompilationUnit
end CryptoUsage
