import CryptoUsage.Proofs.FrontEnd.Grammar
import Mathlib.Data.Option.Basic

/-!
# Java variables and their scopes

A name is looked up from its use outwards, and a scope is found from the declaration outwards.
`IsDeclaredUnder` is where the two ways meet: the declaration of a variable is below the node at
which the lookup ended, and no method and no type lies in between.  So the scope of the variable
is that node or one above it, and every place from which the lookup comes is in the scope
(`IsDeclaredUnder.mem_preorder_symbolScope`).

## What is here

* Single scopes.  A block, a list of parameters, a lambda, the body of a type and the constants of
  an enum each declare what is below them; there is one lemma for each, and
  `isDeclaredUnder_of_declaredIn?` has them all.  The steps from a declarator up to the scope are
  the same everywhere: one node up, if that opens no scope (`IsDeclaredUnder.lift`).  That it
  opens none comes from the grammar.
* Fields of the object itself, which are looked up in the enclosing type and not in scope after
  scope.  Together with identifiers they are what may stand on the left of an assignment
  (`isDeclaredUnder_of_assignmentTarget?`).
* The scope of a variable is the first method or type above its declaration, or everything
  (`symbolScope_eq`).
* Values.  `isValueOf_iff` says that what a variable is declared with or assigned is what takes
  its value from there, looked at from the other end.
-/

set_option autoImplicit false

namespace CryptoUsage
namespace Java

/-- Whether nodes of a kind have a scope of their own: methods and types. -/
def opensScope (kind : String) : Bool :=
  Category.functionDeclaration.holds .java kind || Category.typeDeclaration.holds .java kind

theorem opensScope_of_not_declaration {kind : String} (h : isDeclarationKind kind = false) :
    opensScope kind = false := (Bool.or_eq_false_iff.mp h).1

variable {u : CompilationUnit} {s : Symbol} {name : String} {scope d n : NodeId}

variable (u) in
/-- A node is below another one, with no method and no type in between. -/
def IsUnder (scope d : NodeId) : Prop :=
  ∃ between, u.tree.ancestors d = between ++ scope :: u.tree.ancestors scope ∧
    ∀ n ∈ between, opensScope (u.tree.kind n) = false

theorem isUnder_of_parent? (h : u.tree.parent? d = some scope) : IsUnder u scope d :=
  ⟨[], SyntaxTree.ancestors_of_parent? h, nofun⟩

/-- What is below a node is below its parent too, unless the node has a scope of its own. -/
theorem IsUnder.lift {outer : NodeId} (h : IsUnder u scope d)
    (hparent : u.tree.parent? scope = some outer)
    (hplain : opensScope (u.tree.kind scope) = false) : IsUnder u outer d := by
  obtain ⟨between, heq, hbetween⟩ := h
  rw [SyntaxTree.ancestors_of_parent? hparent] at heq
  refine ⟨between ++ [scope], by rw [heq, List.append_assoc]; rfl, fun n hn => ?_⟩
  rcases List.mem_append.mp hn with hn | hn
  · exact hbetween n hn
  · rwa [List.mem_singleton.mp hn]

variable (u) in
/-- A variable is declared below a node, with no method and no type in between; and if it is
declared by a declarator, it is the variable of that declarator. -/
structure IsDeclaredUnder (scope : NodeId) (s : Symbol) : Prop where
  nested : IsUnder u scope s.declaration
  declarator : u.tree.kind s.declaration = "variable_declarator" →
    ∃ t, declaredSymbol? u s.declaration = some t ∧ t.same s = true

theorem IsDeclaredUnder.lift {outer : NodeId} (h : IsDeclaredUnder u scope s)
    (hparent : u.tree.parent? scope = some outer)
    (hplain : opensScope (u.tree.kind scope) = false) : IsDeclaredUnder u outer s :=
  ⟨h.nested.lift hparent hplain, h.declarator⟩

theorem isDeclaredUnder_of_parent? {kind : SymbolKind} (hparent : u.tree.parent? d = some scope)
    (hkind : u.tree.kind d ≠ "variable_declarator") : IsDeclaredUnder u scope ⟨name, d, kind⟩ where
  nested := isUnder_of_parent? hparent
  declarator h := absurd h hkind

/-! ## Declarators -/

theorem exists_of_isNamedAs (h : isNamedAs u name n = true) :
    ∃ c, u.tree.child? n "name" = some c ∧ u.tree.text c = name := by
  rw [isNamedAs] at h
  split at h
  · next c hc => exact ⟨c, hc, beq_iff_eq.mp h⟩
  · cases h

theorem of_declaratorNamed? {holder : NodeId} (h : declaratorNamed? u name holder = some d) :
    u.tree.parent? d = some holder ∧ ∃ c, u.tree.child? d "name" = some c := by
  have hnamed := List.find?_some h
  obtain ⟨c, hc, -⟩ := exists_of_isNamedAs hnamed
  exact ⟨(SyntaxTree.parent?_of_mem_childrenIn (List.mem_of_find?_eq_some h)).1, c, hc⟩

/-- The declarator of a field. -/
theorem isDeclaredUnder_field {holder : NodeId} (h : declaratorNamed? u name holder = some d)
    (hholder : u.tree.kind holder = "field_declaration" ∨
      u.tree.kind holder = "constant_declaration") :
    IsDeclaredUnder u holder ⟨name, d, .field⟩ := by
  obtain ⟨hparent, c, hc⟩ := of_declaratorNamed? h
  refine ⟨isUnder_of_parent? hparent, fun _ => ?_⟩
  rw [declaredSymbol?, hc, hparent, Option.map_some, Option.map_some]
  rcases hholder with hholder | hholder <;> rw [hholder] <;> exact ⟨_, rfl, by simp [Symbol.same]⟩

/-- The declarator of a local variable. -/
theorem isDeclaredUnder_local {holder : NodeId} (h : declaratorNamed? u name holder = some d)
    (hholder : isDeclarationKind (u.tree.kind holder) = false) :
    IsDeclaredUnder u holder ⟨name, d, .local⟩ := by
  obtain ⟨hparent, c, hc⟩ := of_declaratorNamed? h
  refine ⟨isUnder_of_parent? hparent, fun _ => ?_⟩
  rw [declaredSymbol?, hc, hparent, Option.map_some, Option.map_some]
  refine ⟨_, rfl, ?_⟩
  split
  · next hkind =>
    rw [Option.some.inj hkind] at hholder
    exact absurd hholder (by decide)
  · next hkind =>
    rw [Option.some.inj hkind] at hholder
    exact absurd hholder (by decide)
  · simp [Symbol.same]

/-! ## Single scopes -/

theorem isDeclaredUnder_of_localInBlock? {position : Nat}
    (h : localInBlock? u name scope position = some s) : IsDeclaredUnder u scope s := by
  obtain ⟨d, hlast, rfl⟩ := Option.map_eq_some_iff.mp h
  obtain ⟨statement, hmem, hd⟩ := List.mem_filterMap.mp (List.mem_of_getLast? hlast)
  have hparent : u.tree.parent? statement = some scope :=
    SyntaxTree.parent?_of_mem_namedChildren (List.takeWhile_subset _ hmem)
  split at hd
  · next hkind =>
    have hplain : isDeclarationKind (u.tree.kind statement) = false := by
      rw [beq_iff_eq.mp hkind]
      decide
    exact (isDeclaredUnder_local hd hplain).lift hparent (opensScope_of_not_declaration hplain)
  · cases hd

/-- Every parameter is listed below its method. -/
theorem of_mem_methodParameters (hg : Grammatical u.tree) {method : NodeId}
    (h : s ∈ methodParameters u method) : IsDeclaredUnder u method s ∧ s.kind = .parameter := by
  rw [methodParameters] at h
  split at h
  · cases h
  · next parameters hparameters =>
    obtain ⟨parameter, hmem, hname⟩ := List.mem_filterMap.mp h
    obtain ⟨c, hc, rfl⟩ := Option.map_eq_some_iff.mp hname
    have hparent := SyntaxTree.parent?_of_mem_namedChildren hmem
    have hkind : u.tree.kind parameter ≠ "variable_declarator" := by
      intro hkind
      simp only [parameterName?, hkind] at hc
      cases hc
    have hplain := opensScope_of_not_declaration (hg.of_child? hparameters (by decide))
    exact ⟨(isDeclaredUnder_of_parent? hparent hkind).lift
      (SyntaxTree.parent?_of_child? hparameters).1 hplain, rfl⟩

theorem isDeclaredUnder_of_lambdaParameter? (hg : Grammatical u.tree)
    (h : lambdaParameter? u name scope = some s) : IsDeclaredUnder u scope s := by
  obtain ⟨parameters, hparameters, h⟩ := Option.bind_eq_some_iff.mp h
  obtain ⟨found, hfound, h⟩ := Option.bind_eq_some_iff.mp h
  cases h
  have hmem := List.mem_of_find?_eq_some hfound
  have hlist := SyntaxTree.parent?_of_child? hparameters
  have hplain := hg.of_child? hparameters (by decide)
  have hkind_ne {n : NodeId} (hn : isDeclarationKind (u.tree.kind n) = false) :
      u.tree.kind n ≠ "variable_declarator" := by
    intro hkind
    rw [hkind] at hn
    exact absurd hn (by decide)
  split at hmem
  · -- the one parameter without parentheses
    obtain rfl := List.mem_singleton.mp hmem
    exact isDeclaredUnder_of_parent? hlist.1 (hkind_ne hplain)
  · have hparent := SyntaxTree.parent?_of_mem_namedChildren hmem
    have hfound := hkind_ne (hg.of_parameters hparameters hparent)
    exact (isDeclaredUnder_of_parent? hparent hfound).lift hlist.1
      (opensScope_of_not_declaration hplain)
  · obtain ⟨p, hp, hname⟩ := List.mem_filterMap.mp hmem
    have hparent := SyntaxTree.parent?_of_mem_namedChildren hp
    have hparameter := hg.of_parameters hparameters hparent
    have hfound := hkind_ne (hg.of_child? hname (by decide))
    exact ((isDeclaredUnder_of_parent? (SyntaxTree.parent?_of_child? hname).1 hfound).lift hparent
      (opensScope_of_not_declaration hparameter)).lift hlist.1
        (opensScope_of_not_declaration hplain)

theorem isDeclaredUnder_of_fieldInBody? (h : fieldInBody? u name scope = some s) :
    IsDeclaredUnder u scope s := by
  obtain ⟨d, hd, rfl⟩ := Option.map_eq_some_iff.mp h
  obtain ⟨member, hmem, hd⟩ := List.exists_of_findSome?_eq_some hd
  obtain ⟨hmem, hkind⟩ := List.mem_filter.mp hmem
  rw [Bool.or_eq_true, beq_iff_eq, beq_iff_eq] at hkind
  refine (isDeclaredUnder_field hd hkind).lift (SyntaxTree.parent?_of_mem_namedChildren hmem) ?_
  rcases hkind with hkind | hkind <;> rw [hkind] <;> decide

theorem isDeclaredUnder_of_enumConstantInBody? (h : enumConstantInBody? u name scope = some s) :
    IsDeclaredUnder u scope s := by
  obtain ⟨c, hc, rfl⟩ := Option.map_eq_some_iff.mp h
  have hconstant := List.find?_some hc
  refine isDeclaredUnder_of_parent?
    (SyntaxTree.parent?_of_mem_namedChildren (List.mem_of_find?_eq_some hc)) fun hkind => ?_
  rw [hkind] at hconstant
  exact absurd hconstant (by simp)

/-- **Whatever a scope declares is declared below it.** -/
theorem isDeclaredUnder_of_declaredIn? (hg : Grammatical u.tree) {position : Nat}
    (h : declaredIn? u name position scope = some s) : IsDeclaredUnder u scope s := by
  rw [declaredIn?] at h
  split at h
  iterate 3 exact isDeclaredUnder_of_localInBlock? h
  · -- what a loop starts with
    obtain ⟨start, hstart, h⟩ := Option.bind_eq_some_iff.mp h
    obtain ⟨d, hd, h⟩ := Option.bind_eq_some_iff.mp h
    cases h
    have hplain := hg.of_child? hstart (by decide)
    exact (isDeclaredUnder_local hd hplain).lift (SyntaxTree.parent?_of_child? hstart).1
      (opensScope_of_not_declaration hplain)
  · -- what a loop runs over
    obtain ⟨c, hc, rfl⟩ := Option.map_eq_some_iff.mp h
    obtain ⟨hc, -⟩ := Option.filter_eq_some_iff.mp hc
    refine isDeclaredUnder_of_parent? (SyntaxTree.parent?_of_child? hc).1 fun hkind => ?_
    have hplain := hg.of_child? hc (by decide)
    rw [hkind] at hplain
    exact absurd hplain (by decide)
  · -- what is caught
    obtain ⟨c, hc, rfl⟩ := Option.map_eq_some_iff.mp h
    obtain ⟨hc, -⟩ := Option.filter_eq_some_iff.mp hc
    have hcaught := List.find?_some hc
    refine isDeclaredUnder_of_parent?
      (SyntaxTree.parent?_of_mem_namedChildren (List.mem_of_find?_eq_some hc)) fun hkind => ?_
    rw [hkind] at hcaught
    exact absurd hcaught (by decide)
  · exact isDeclaredUnder_of_lambdaParameter? hg h
  iterate 3 exact (of_mem_methodParameters hg (List.mem_of_find?_eq_some h)).1
  iterate 3 exact isDeclaredUnder_of_fieldInBody? h
  · exact isDeclaredUnder_of_enumConstantInBody? h
  · cases h

/-! ## Fields of the object itself -/

theorem isIn_of_enclosingType? {type : NodeId} (h : enclosingType? u n = some type) :
    Category.typeDeclaration.holds .java (u.tree.kind type) = true := by
  have hfound := List.find?_some h
  exact hfound

theorem isDeclaredUnder_of_memberOfType? (hg : Grammatical u.tree) {type : NodeId}
    (htype : Category.typeDeclaration.holds .java (u.tree.kind type) = true)
    (h : memberOfType? u name type = some s) : IsDeclaredUnder u type s := by
  obtain ⟨body, hbody, h⟩ := Option.bind_eq_some_iff.mp h
  have hparent := (SyntaxTree.parent?_of_child? hbody).1
  have hplain := opensScope_of_not_declaration (hg.of_body hbody htype)
  split at h
  · cases hconstant : enumConstantInBody? u name body with
    | some constant =>
      rw [hconstant] at h
      cases h
      exact (isDeclaredUnder_of_enumConstantInBody? hconstant).lift hparent hplain
    | none =>
      rw [hconstant] at h
      obtain ⟨members, hmem, hfield⟩ := List.exists_of_findSome?_eq_some h
      obtain ⟨hchild, hkind⟩ := List.mem_filter.mp hmem
      have hmembers : opensScope (u.tree.kind members) = false := by
        rw [beq_iff_eq.mp hkind]
        decide
      exact ((isDeclaredUnder_of_fieldInBody? hfield).lift
        (SyntaxTree.parent?_of_mem_namedChildren hchild) hmembers).lift hparent hplain
  · exact (isDeclaredUnder_of_fieldInBody? h).lift hparent hplain

/-- **What the left side of an assignment stands for is declared below a node above it**, and that
node is no assignment itself. -/
theorem isDeclaredUnder_of_assignmentTarget? (hg : Grammatical u.tree) {left : NodeId}
    (h : assignmentTarget? u left = some s) :
    ∃ scope ∈ u.tree.ancestors left, u.tree.kind scope ≠ "assignment_expression" ∧
      IsDeclaredUnder u scope s := by
  rw [assignmentTarget?] at h
  split at h
  · obtain ⟨scope, hmem, hdeclared⟩ := List.exists_of_findSome?_eq_some h
    refine ⟨scope, hmem, fun hkind => ?_, isDeclaredUnder_of_declaredIn? hg hdeclared⟩
    simp only [declaredIn?, hkind] at hdeclared
    cases hdeclared
  · obtain ⟨object, -, h⟩ := Option.bind_eq_some_iff.mp h
    obtain ⟨field, -, h⟩ := Option.bind_eq_some_iff.mp h
    obtain ⟨-, -, h⟩ := Option.bind_eq_some_iff.mp h
    obtain ⟨type, htype, hmember⟩ := Option.bind_eq_some_iff.mp h
    have hkind := isIn_of_enclosingType? htype
    refine ⟨type, List.mem_of_find?_eq_some htype, fun hassignment => ?_,
      isDeclaredUnder_of_memberOfType? hg hkind hmember⟩
    rw [hassignment] at hkind
    exact absurd hkind (by decide)
  · cases h

/-! ## The scope of a variable -/

/-- The scope of a variable is the first method or the first type above its declaration, if there is
one of the kind asked for, and otherwise the whole unit. -/
theorem symbolScope_eq (u : CompilationUnit) (s : Symbol) :
    ∃ found : Option NodeId, symbolScope u s = found.getD SyntaxTree.root ∧
      ∀ top, found = some top → top ∈ u.tree.ancestors s.declaration ∧
        opensScope (u.tree.kind top) = true := by
  have hmethod {top : NodeId} (h : enclosingMethod? u s.declaration = some top) :
      top ∈ u.tree.ancestors s.declaration ∧ opensScope (u.tree.kind top) = true := by
    have hkind := List.find?_some h
    exact ⟨List.mem_of_find?_eq_some h, Bool.or_eq_true_iff.mpr (.inl hkind)⟩
  have htype {top : NodeId} (h : enclosingType? u s.declaration = some top) :
      top ∈ u.tree.ancestors s.declaration ∧ opensScope (u.tree.kind top) = true :=
    ⟨List.mem_of_find?_eq_some h, Bool.or_eq_true_iff.mpr (.inr (isIn_of_enclosingType? h))⟩
  rw [symbolScope]
  cases s.kind with
  | «local» =>
    refine ⟨_, rfl, fun top h => ?_⟩
    cases hfound : enclosingMethod? u s.declaration with
    | some method =>
      rw [hfound] at h
      cases h
      exact hmethod hfound
    | none =>
      rw [hfound] at h
      exact htype h
  | parameter => exact ⟨_, rfl, fun top h => hmethod h⟩
  | field => exact ⟨_, rfl, fun top h => htype h⟩
  | enumConstant => exact ⟨_, rfl, fun top h => htype h⟩

/-- **The scope of a variable holds every place from which a lookup can come to it.** -/
theorem IsDeclaredUnder.mem_preorder_symbolScope (hg : Grammatical u.tree)
    (h : IsDeclaredUnder u scope s) (hscope : scope ∈ u.tree.ancestors n) :
    n ∈ u.tree.preorder (symbolScope u s) := by
  obtain ⟨above, hparent⟩ : ∃ p, u.tree.parent? n = some p := by
    cases hparent : u.tree.parent? n with
    | none => rw [SyntaxTree.ancestors_of_no_parent hparent] at hscope; cases hscope
    | some p => exact ⟨p, rfl⟩
  have hn := u.tree.lt_size_of_parent? hparent
  obtain ⟨found, heq, hfound⟩ := symbolScope_eq u s
  rw [heq]
  cases found with
  | none => exact hg.mem_preorder_root hn
  | some top =>
    obtain ⟨hmem, hopens⟩ := hfound top rfl
    obtain ⟨between, hbetween, hplain⟩ := h.nested
    -- the first method or type above the declaration is not below the node
    have habove : top = scope ∨ top ∈ u.tree.ancestors scope := by
      rw [hbetween, List.mem_append, List.mem_cons] at hmem
      refine hmem.resolve_left fun hin => ?_
      rw [hplain top hin] at hopens
      cases hopens
    have htop : top ∈ u.tree.ancestors n := by
      rcases habove with rfl | habove
      · exact hscope
      · exact SyntaxTree.mem_ancestors_trans habove hscope
    exact (SyntaxTree.mem_preorder_iff
      (Nat.lt_trans (SyntaxTree.lt_of_mem_ancestors htop) hn)).mpr (.inr htop)

/-- The scope belongs to the declaration, by whichever name the variable is called. -/
theorem symbolScope_congr {t : Symbol} (h : t.same s = true) :
    symbolScope u t = symbolScope u s := by
  obtain ⟨hdeclaration, hkind⟩ := Bool.and_eq_true_iff.mp h
  rw [symbolScope, symbolScope, beq_iff_eq.mp hdeclaration, beq_iff_eq.mp hkind]

/-! ## Values -/

variable {v p : NodeId}

variable (u) in
/-- A node is the value of a declarator or the right side of a plain assignment. -/
def IsAssigned (v : NodeId) : Prop :=
  ∃ p, (u.tree.kind p = "variable_declarator" ∧ u.tree.child? p "value" = some v) ∨
    (isPlainAssignment u p = true ∧ u.tree.child? p "right" = some v)

theorem assignedSymbol?_of_declarator (hkind : u.tree.kind p = "variable_declarator")
    (hvalue : u.tree.child? p "value" = some v) : assignedSymbol? u v = declaredSymbol? u p := by
  rw [assignedSymbol?, SyntaxTree.ancestors_of_parent? (SyntaxTree.parent?_of_child? hvalue).1]
  simp only [assignedSymbolFrom?, hkind, hvalue, if_true]

theorem assignedSymbol?_of_assignment (hp : isPlainAssignment u p = true)
    (hright : u.tree.child? p "right" = some v) :
    assignedSymbol? u v = (u.tree.child? p "left").bind (assignmentTarget? u) := by
  have hkind : u.tree.kind p = "assignment_expression" :=
    beq_iff_eq.mp (Bool.and_eq_true_iff.mp hp).1
  rw [assignedSymbol?, SyntaxTree.ancestors_of_parent? (SyntaxTree.parent?_of_child? hright).1]
  simp only [assignedSymbolFrom?, hkind, hp, hright, BEq.rfl, Bool.and_self, if_true]

theorem initializer?_eq_some :
    initializer? u s = some v ↔
      u.tree.kind s.declaration = "variable_declarator" ∧
        u.tree.child? s.declaration "value" = some v := by
  rw [initializer?]
  split
  · next hkind => exact ⟨fun h => ⟨hkind, h⟩, And.right⟩
  · next hkind => exact ⟨nofun, fun h => absurd h.1 hkind⟩

theorem mem_assignments :
    v ∈ assignments u s ↔ ∃ p ∈ u.tree.preorder (symbolScope u s),
      isPlainAssignment u p = true ∧ u.tree.child? p "right" = some v ∧
        ∃ t, (u.tree.child? p "left").bind (assignmentTarget? u) = some t ∧ t.same s = true := by
  simp only [assignments, List.mem_filterMap, valueAssignedTo?, Option.bind_eq_bind,
    Option.bind_eq_some_iff, Option.guard_eq_some', exists_const, Option.pure_def,
    Option.some.injEq]
  constructor
  · rintro ⟨p, hmem, hp, left, hleft, right, hright, t, ht, hsame, rfl⟩
    exact ⟨p, hmem, hp, hright, t, ⟨left, hleft, ht⟩, hsame⟩
  · rintro ⟨p, hmem, hp, hright, t, ⟨left, hleft, ht⟩, hsame⟩
    exact ⟨p, hmem, hp, left, hleft, v, hright, t, ht, hsame, rfl⟩

/-- **The values of a variable are the expressions that it takes the value of**: what it is declared
with or assigned is what, looked at from itself, is assigned to it. -/
theorem isValueOf_iff (hg : Grammatical u.tree) (hs : assignmentTarget? u n = some s) :
    (initializer? u s = some v ∨ v ∈ assignments u s) ↔
      IsAssigned u v ∧ ∃ t, assignedSymbol? u v = some t ∧ t.same s = true := by
  constructor
  · rintro (hinit | hassigned)
    · obtain ⟨hkind, hvalue⟩ := initializer?_eq_some.mp hinit
      obtain ⟨_, -, -, hdeclared⟩ := isDeclaredUnder_of_assignmentTarget? hg hs
      rw [assignedSymbol?_of_declarator hkind hvalue]
      exact ⟨⟨s.declaration, .inl ⟨hkind, hvalue⟩⟩, hdeclared.declarator hkind⟩
    · obtain ⟨p, -, hp, hright, htarget⟩ := mem_assignments.mp hassigned
      rw [assignedSymbol?_of_assignment hp hright]
      exact ⟨⟨p, .inr ⟨hp, hright⟩⟩, htarget⟩
  · rintro ⟨⟨p, ⟨hkind, hvalue⟩ | ⟨hp, hright⟩⟩, t, ht, hsame⟩
    · rw [assignedSymbol?_of_declarator hkind hvalue] at ht
      obtain ⟨_, -, rfl⟩ := Option.map_eq_some_iff.mp ht
      obtain rfl : p = s.declaration := beq_iff_eq.mp (Bool.and_eq_true_iff.mp hsame).1
      exact .inl (initializer?_eq_some.mpr ⟨hkind, hvalue⟩)
    · rw [assignedSymbol?_of_assignment hp hright] at ht
      refine .inr (mem_assignments.mpr ⟨p, ?_, hp, hright, t, ht, hsame⟩)
      obtain ⟨left, hleft, htarget⟩ := Option.bind_eq_some_iff.mp ht
      obtain ⟨scope, hmem, hkind, hdeclared⟩ := isDeclaredUnder_of_assignmentTarget? hg htarget
      rw [SyntaxTree.ancestors_of_parent? (SyntaxTree.parent?_of_child? hleft).1] at hmem
      have hscope : scope ∈ u.tree.ancestors p := by
        refine (List.mem_cons.mp hmem).resolve_left ?_
        rintro rfl
        exact hkind (beq_iff_eq.mp (Bool.and_eq_true_iff.mp hp).1)
      rw [← symbolScope_congr hsame]
      exact hdeclared.mem_preorder_symbolScope hg hscope

end Java
end CryptoUsage
