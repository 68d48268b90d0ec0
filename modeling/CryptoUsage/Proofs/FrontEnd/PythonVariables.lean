import CryptoUsage.Proofs.FrontEnd.Grammar
import Mathlib.Data.Option.Basic

/-!
# Python variables and their scopes

A name belongs to the innermost function, lambda or module that binds it (`IsBoundBy`), and a
field of `self` to the innermost class (`IsFieldOf`).  What binds a variable is its scope
(`IsBoundBy.symbolScope_eq`, `IsFieldOf.symbolScope_eq`), so all that is assigned to it is found
there.  And the left side of the assignment by which a variable is known stands for the variable
itself (`assignmentTarget?_of_boundBy?`, `assignmentTarget?_of_fieldNamed?`): between it and the
scope nothing else can bind the name.

## How it goes

A variable is known by the first assignment that a walk down from its scope meets.
`exists_of_first_assignment` turns this around: on the way up from there are only assignments and
nodes that the walk enters.  As the walk does not enter inner functions and classes, the first one
of these that is met on the way up is the scope again.

Two facts about lookup follow.  Below the root, only what opens a scope binds names
(`boundBy?_of_not_isScopeBoundary`); so a name means what a node binds wherever no other scope
opens in between (`lookup?_of_boundBy?`).

`isValueOf_iff` is the statement of this file for values: those that a variable takes, looked at
from the variable, are those that are assigned to it, looked at from the values.  The first value
is apart from the others, since the variable is known by its assignment.
-/

set_option autoImplicit false

namespace CryptoUsage
namespace Python

variable {u : CompilationUnit} {s : Symbol} {name : String} {scope top n v p : NodeId}

/-! ## What binds a variable -/

variable (u) in
/-- A node binds a variable of the given name for what is inside it. -/
inductive IsBoundBy (scope : NodeId) (name : String) (s : Symbol) : Prop
  | parameter {parameters : NodeId} (kind_eq : s.kind = .parameter)
      (scope_kind : u.tree.kind scope = "function_definition" ∨ u.tree.kind scope = "lambda")
      (parameters_eq : u.tree.child? scope "parameters" = some parameters)
      (listed : u.tree.parent? s.declaration = some parameters)
  | assigned {assignment : NodeId} {between : List NodeId} (kind_eq : s.kind = .local)
      (scope_kind : u.tree.kind scope = "function_definition" ∨ u.tree.kind scope = "module")
      (assigns : assignsName u name assignment = true)
      (left_eq : u.tree.child? assignment "left" = some s.declaration)
      (ancestors_eq :
        u.tree.ancestors s.declaration = between ++ scope :: u.tree.ancestors scope)
      (open_ : ∀ n ∈ between, isScopeBoundary u n = false)

variable (u) in
/-- A variable is the attribute of `self` with the given name that is first assigned in a class. -/
structure IsFieldOf (owner : NodeId) (name : String) (s : Symbol) : Prop where
  kind_eq : s.kind = .field
  assigned : ∃ assignment between, assignsField u name assignment = true ∧
    u.tree.child? assignment "left" = some s.declaration ∧
    u.tree.ancestors s.declaration = between ++ owner :: u.tree.ancestors owner ∧
    ∀ n ∈ between, u.tree.kind n ≠ "class_definition"

theorem kind_of_assignsName (h : assignsName u name n = true) : u.tree.kind n = "assignment" :=
  beq_iff_eq.mp (Bool.and_eq_true_iff.mp h).1

theorem kind_of_assignsField (h : assignsField u name n = true) : u.tree.kind n = "assignment" :=
  beq_iff_eq.mp (Bool.and_eq_true_iff.mp h).1

/-- What is known by the first assignment that a walk down meets: on the way up from there are
assignments and nodes that the walk enters, up to and with its top. -/
theorem exists_of_first_assignment {enter assigns : NodeId → Bool} {kind : SymbolKind}
    (h : ((u.tree.preorderWhile enter top).find? assigns).bind (assignedAt? u name kind) = some s)
    (hassigns : ∀ {n}, assigns n = true → u.tree.kind n = "assignment") :
    s.kind = kind ∧ ∃ assignment between, assigns assignment = true ∧
      u.tree.child? assignment "left" = some s.declaration ∧
      u.tree.ancestors s.declaration = between ++ top :: u.tree.ancestors top ∧
      ∀ n ∈ between ++ [top], u.tree.kind n = "assignment" ∨ enter n = true := by
  obtain ⟨assignment, hfound, hat⟩ := Option.bind_eq_some_iff.mp h
  obtain ⟨left, hleft, rfl⟩ := Option.map_eq_some_iff.mp hat
  have hassigned := List.find?_some hfound
  have hkind := hassigns hassigned
  have hup := SyntaxTree.ancestors_of_parent? (SyntaxTree.parent?_of_child? hleft).1
  refine ⟨rfl, assignment, ?_⟩
  rcases SyntaxTree.between_of_mem_preorderWithin (List.mem_of_find?_eq_some hfound) with
    rfl | ⟨between, heq, htop, hbetween⟩
  · refine ⟨[], hassigned, hleft, hup, fun n hn => ?_⟩
    rw [List.mem_singleton.mp hn]
    exact .inl hkind
  · refine ⟨assignment :: between, hassigned, hleft, by rw [hup, heq]; rfl, fun n hn => ?_⟩
    rcases List.mem_append.mp hn with hn | hn
    · rcases List.mem_cons.mp hn with rfl | hn
      · exact .inl hkind
      · exact .inr (hbetween n hn)
    · rw [List.mem_singleton.mp hn]
      exact .inr htop

theorem isScopeBoundary_of_assignment (h : u.tree.kind n = "assignment") :
    isScopeBoundary u n = false := by
  rw [isScopeBoundary, h]
  decide

/-- What the walk down from the body of a scope finds. -/
theorem exists_of_firstAssignment? (h : firstAssignment? u name top = some s) :
    s.kind = .local ∧ ∃ assignment between, assignsName u name assignment = true ∧
      u.tree.child? assignment "left" = some s.declaration ∧
      u.tree.ancestors s.declaration = between ++ top :: u.tree.ancestors top ∧
      ∀ n ∈ between ++ [top], isScopeBoundary u n = false := by
  obtain ⟨hkind, assignment, between, hassigns, hleft, heq, hbetween⟩ :=
    exists_of_first_assignment h kind_of_assignsName
  refine ⟨hkind, assignment, between, hassigns, hleft, heq, fun n hn => ?_⟩
  rcases hbetween n hn with hassignment | henter
  · exact isScopeBoundary_of_assignment hassignment
  · exact Bool.not_eq_true' _ |>.mp henter

theorem exists_of_mem_methodParameters (h : s ∈ methodParameters u n) :
    s.kind = .parameter ∧ ∃ parameters, u.tree.child? n "parameters" = some parameters ∧
      u.tree.parent? s.declaration = some parameters := by
  have hdeclared : s ∈ declaredParameters u n := by
    rw [methodParameters] at h
    split at h
    · cases h
    · next first rest heq =>
      rw [heq]
      split at h
      · exact List.mem_cons_of_mem _ h
      · exact h
  rw [declaredParameters] at hdeclared
  split at hdeclared
  · cases hdeclared
  · next parameters hparameters =>
    obtain ⟨parameter, hmem, hname⟩ := List.mem_filterMap.mp hdeclared
    obtain ⟨c, -, rfl⟩ := Option.map_eq_some_iff.mp hname
    exact ⟨rfl, parameters, hparameters, SyntaxTree.parent?_of_mem_namedChildren hmem⟩

/-- **`boundBy?` finds what a node binds.** -/
theorem isBoundBy_of_boundBy? (h : boundBy? u name scope = some s) : IsBoundBy u scope name s := by
  rw [boundBy?] at h
  split at h
  · next hkind =>
    cases hparameter : (methodParameters u scope).find? fun p => p.name == name with
    | some parameter =>
      rw [hparameter] at h
      cases h
      obtain ⟨hkind', parameters, hparameters, hlisted⟩ :=
        exists_of_mem_methodParameters (List.mem_of_find?_eq_some hparameter)
      exact .parameter hkind' (.inl hkind) hparameters hlisted
    | none =>
      rw [hparameter] at h
      obtain ⟨body, hbody, hfirst⟩ := Option.bind_eq_some_iff.mp h
      obtain ⟨hkind', assignment, between, hassigns, hleft, heq, hopen⟩ :=
        exists_of_firstAssignment? hfirst
      have hup := SyntaxTree.ancestors_of_parent? (SyntaxTree.parent?_of_child? hbody).1
      refine .assigned hkind' (.inl hkind) hassigns hleft ?_ hopen
      rw [heq, hup, List.append_assoc, List.singleton_append]
  · next hkind =>
    obtain ⟨parameters, hparameters, h⟩ := Option.bind_eq_some_iff.mp h
    obtain ⟨parameter, hfound, h⟩ := Option.bind_eq_some_iff.mp h
    cases h
    exact .parameter rfl (.inr hkind) hparameters
      (SyntaxTree.parent?_of_mem_namedChildren (List.mem_of_find?_eq_some hfound))
  · next hkind =>
    obtain ⟨hkind', assignment, between, hassigns, hleft, heq, hopen⟩ :=
      exists_of_firstAssignment? h
    exact .assigned hkind' (.inr hkind) hassigns hleft heq fun n hn =>
      hopen n (List.mem_append_left _ hn)
  · cases h

/-- **`fieldNamed?` finds the field of a class.** -/
theorem isFieldOf_of_fieldNamed? {owner : NodeId} (h : fieldNamed? u name owner = some s) :
    IsFieldOf u owner name s := by
  obtain ⟨body, hbody, h⟩ := Option.bind_eq_some_iff.mp h
  obtain ⟨hkind, assignment, between, hassigns, hleft, heq, hopen⟩ :=
    exists_of_first_assignment h kind_of_assignsField
  have hup := SyntaxTree.ancestors_of_parent? (SyntaxTree.parent?_of_child? hbody).1
  refine ⟨hkind, assignment, between ++ [body], hassigns, hleft, ?_, fun n hn hclass => ?_⟩
  · rw [heq, hup, List.append_assoc, List.singleton_append]
  · rcases hopen n hn with hassignment | henter
    · rw [hassignment] at hclass
      exact absurd hclass (by decide)
    · rw [hclass] at henter
      exact absurd henter (by decide)

/-! ## The scope of a variable -/

theorem kind_ne_of_not_isScopeBoundary (h : isScopeBoundary u n = false) :
    u.tree.kind n ≠ "function_definition" ∧ u.tree.kind n ≠ "class_definition" ∧
      u.tree.kind n ≠ "lambda" := by
  simpa [isScopeBoundary] using h

/-- **What binds a variable is its scope.** -/
theorem IsBoundBy.symbolScope_eq (hg : Grammatical u.tree) (h : IsBoundBy u scope name s) :
    symbolScope u s = scope := by
  cases h with
  | @parameter parameters kind_eq scope_kind parameters_eq listed =>
    obtain ⟨hparent, hslot⟩ := SyntaxTree.parent?_of_child? parameters_eq
    have hplain := hg.parameters parameters (u.tree.lt_size_of_parent? hparent) hslot
    have hup : u.tree.ancestors s.declaration =
        [parameters] ++ scope :: u.tree.ancestors scope := by
      rw [SyntaxTree.ancestors_of_parent? listed, SyntaxTree.ancestors_of_parent? hparent]
      rfl
    have hfound := SyntaxTree.find?_ancestors
      (p := fun n => u.tree.kind n == "function_definition" || u.tree.kind n == "lambda") hup
      (fun a ha => by rw [List.mem_singleton.mp ha]; simp_all) (by simpa using scope_kind)
    rw [symbolScope, kind_eq]
    simp only [hfound, Option.getD_some]
  | @assigned assignment between kind_eq scope_kind assigns left_eq ancestors_eq open_ =>
    have hopen := fun a ha => kind_ne_of_not_isScopeBoundary (open_ a ha)
    rw [symbolScope, kind_eq]
    simp only [enclosingScope]
    rcases scope_kind with hfunction | hmodule
    · have hfound : enclosingMethod? u s.declaration = some scope :=
        SyntaxTree.find?_ancestors ancestors_eq (fun a ha => by simp [(hopen a ha).1])
          (by simp [hfunction])
      rw [hfound]
      rfl
    · -- nothing is above a module
      have hroot : scope = SyntaxTree.root :=
        hg.module scope (u.tree.lt_size_of_kind_ne (by rw [hmodule]; decide)) hmodule
      have htop : u.tree.ancestors SyntaxTree.root = [] := rfl
      rw [hroot, htop] at ancestors_eq
      have hmethod : enclosingMethod? u s.declaration = none := by
        rw [enclosingMethod?, ancestors_eq, List.find?_eq_none]
        intro a ha
        rcases List.mem_append.mp ha with ha | ha
        · simp [(hopen a ha).1]
        · rw [List.mem_singleton.mp ha, ← hroot, hmodule]
          decide
      have hclass : enclosingClass? u s.declaration = none := by
        rw [enclosingClass?, ancestors_eq, List.find?_eq_none]
        intro a ha
        rcases List.mem_append.mp ha with ha | ha
        · simp [(hopen a ha).2.1]
        · rw [List.mem_singleton.mp ha, ← hroot, hmodule]
          decide
      rw [hmethod, hclass]
      exact hroot.symm

theorem IsFieldOf.enclosingClass?_eq {owner : NodeId} (h : IsFieldOf u owner name s)
    (hclass : u.tree.kind owner = "class_definition") :
    enclosingClass? u s.declaration = some owner := by
  obtain ⟨assignment, between, -, -, heq, hopen⟩ := h.assigned
  exact SyntaxTree.find?_ancestors heq (fun a ha => by simp [hopen a ha]) (by simp [hclass])

theorem IsFieldOf.symbolScope_eq {owner : NodeId} (h : IsFieldOf u owner name s)
    (hclass : u.tree.kind owner = "class_definition") : symbolScope u s = owner := by
  rw [symbolScope, h.kind_eq]
  simp only [h.enclosingClass?_eq hclass, Option.getD_some]

theorem kind_of_enclosingClass? (h : enclosingClass? u n = some scope) :
    u.tree.kind scope = "class_definition" := by
  have hfound := List.find?_some h
  exact beq_iff_eq.mp hfound

/-- **The scope of a variable is above all that is assigned to it.** -/
theorem symbolScope_mem_ancestors (hg : Grammatical u.tree) {left : NodeId}
    (hkind : u.tree.kind p = "assignment") (hleft : u.tree.child? p "left" = some left)
    (h : assignmentTarget? u left = some s) : symbolScope u s ∈ u.tree.ancestors p := by
  have hup := SyntaxTree.ancestors_of_parent? (SyntaxTree.parent?_of_child? hleft).1
  rw [assignmentTarget?] at h
  split at h
  · obtain ⟨scope, hmem, hbound⟩ := List.exists_of_findSome?_eq_some h
    rw [(isBoundBy_of_boundBy? hbound).symbolScope_eq hg]
    refine (List.mem_cons.mp (hup ▸ hmem)).resolve_left ?_
    rintro rfl
    simp only [boundBy?, hkind] at hbound
    cases hbound
  · obtain ⟨_, -, h⟩ := Option.bind_eq_some_iff.mp h
    obtain ⟨owner, howner, hfield⟩ := Option.bind_eq_some_iff.mp h
    have hclass := kind_of_enclosingClass? howner
    rw [(isFieldOf_of_fieldNamed? hfield).symbolScope_eq hclass]
    refine (List.mem_cons.mp (hup ▸ List.mem_of_find?_eq_some howner)).resolve_left ?_
    rintro rfl
    rw [hkind] at hclass
    exact absurd hclass (by decide)
  · cases h

theorem symbolScope_congr {t : Symbol} (h : t.same s = true) :
    symbolScope u t = symbolScope u s := by
  obtain ⟨hdeclaration, hkind⟩ := Bool.and_eq_true_iff.mp h
  rw [symbolScope, symbolScope, beq_iff_eq.mp hdeclaration, beq_iff_eq.mp hkind]

/-! ## The assignment by which a variable is known -/

/-- Below the root, only what opens a scope binds names. -/
theorem boundBy?_of_not_isScopeBoundary (hg : Grammatical u.tree)
    (hopen : isScopeBoundary u n = false) (hroot : n ≠ SyntaxTree.root) :
    boundBy? u name n = none := by
  obtain ⟨hfunction, -, hlambda⟩ := kind_ne_of_not_isScopeBoundary hopen
  have hmodule : u.tree.kind n ≠ "module" := fun hmodule =>
    hroot (hg.module n (u.tree.lt_size_of_kind_ne (by rw [hmodule]; decide)) hmodule)
  rw [boundBy?]
  split <;> first | rfl | contradiction

/-- What a node binds is what the name stands for wherever no other scope opens in between. -/
theorem lookup?_of_boundBy? (hg : Grammatical u.tree) (h : boundBy? u name scope = some s)
    {between above : List NodeId} (heq : u.tree.ancestors n = between ++ scope :: above)
    (hopen : ∀ a ∈ between, isScopeBoundary u a = false) : lookup? u name n = some s := by
  have hbetween : ∀ a ∈ between, boundBy? u name a = none := fun a ha =>
    boundBy?_of_not_isScopeBoundary hg (hopen a ha)
      (Nat.ne_zero_of_lt (SyntaxTree.lt_of_mem_between heq ha))
  rw [lookup?, heq, List.findSome?_append, List.findSome?_eq_none_iff.mpr hbetween,
    Option.none_or, List.findSome?_cons, h]

/-- The left side of the first assignment to a name stands for the variable that it introduces. -/
theorem assignmentTarget?_of_boundBy? (hg : Grammatical u.tree)
    (h : boundBy? u name scope = some s) {assignment : NodeId}
    (hparent : u.tree.parent? s.declaration = some assignment)
    (hkind : u.tree.kind assignment = "assignment") :
    assignmentTarget? u s.declaration = some s := by
  cases isBoundBy_of_boundBy? h with
  | @parameter parameters _ _ parameters_eq listed =>
    obtain rfl : parameters = assignment := Option.some.inj (listed.symm.trans hparent)
    obtain ⟨habove, hslot⟩ := SyntaxTree.parent?_of_child? parameters_eq
    have hplain := hg.parameters parameters (u.tree.lt_size_of_parent? habove) hslot
    rw [hkind] at hplain
    exact absurd hplain (by decide)
  | @assigned first between _ _ assigns left_eq ancestors_eq open_ =>
    have hleft := (Bool.and_eq_true_iff.mp assigns).2
    rw [left_eq, Option.any_some, Bool.and_eq_true, beq_iff_eq, beq_iff_eq] at hleft
    obtain ⟨hidentifier, htext⟩ := hleft
    rw [assignmentTarget?, hidentifier]
    simp only [resolveIdentifier?, htext]
    exact lookup?_of_boundBy? hg h ancestors_eq open_

theorem assignmentTarget?_of_fieldNamed? {owner : NodeId} (h : fieldNamed? u name owner = some s)
    (hclass : u.tree.kind owner = "class_definition") :
    assignmentTarget? u s.declaration = some s := by
  have hfield := isFieldOf_of_fieldNamed? h
  obtain ⟨assignment, -, hassigns, hleft, -⟩ := hfield.assigned
  have hself := (Bool.and_eq_true_iff.mp hassigns).2
  rw [hleft, Option.any_some, beq_iff_eq] at hself
  have hattribute : u.tree.kind s.declaration = "attribute" := by
    obtain ⟨_, hkind, -⟩ := Option.bind_eq_some_iff.mp hself
    rw [Option.guard_eq_some', beq_iff_eq] at hkind
    exact hkind
  rw [assignmentTarget?, hattribute]
  simp only [hself, hfield.enclosingClass?_eq hclass, Option.bind_eq_bind, Option.bind_some, h]

/-- The assignment by which a variable is known assigns to that variable. -/
theorem assignmentTarget?_declaration (hg : Grammatical u.tree)
    (hs : assignmentTarget? u n = some s) {assignment : NodeId}
    (hparent : u.tree.parent? s.declaration = some assignment)
    (hkind : u.tree.kind assignment = "assignment") :
    assignmentTarget? u s.declaration = some s := by
  rw [assignmentTarget?] at hs
  split at hs
  · obtain ⟨scope, -, hbound⟩ := List.exists_of_findSome?_eq_some hs
    exact assignmentTarget?_of_boundBy? hg hbound hparent hkind
  · obtain ⟨_, -, hs⟩ := Option.bind_eq_some_iff.mp hs
    obtain ⟨owner, howner, hfield⟩ := Option.bind_eq_some_iff.mp hs
    exact assignmentTarget?_of_fieldNamed? hfield (kind_of_enclosingClass? howner)
  · cases hs

/-! ## Values -/

variable (u) in
/-- A node is the right side of an assignment. -/
def IsAssigned (v : NodeId) : Prop :=
  ∃ p, u.tree.kind p = "assignment" ∧ u.tree.child? p "right" = some v

theorem assignedSymbol?_of_assignment (hkind : u.tree.kind p = "assignment")
    (hright : u.tree.child? p "right" = some v) :
    assignedSymbol? u v = (u.tree.child? p "left").bind (assignmentTarget? u) := by
  rw [assignedSymbol?, SyntaxTree.ancestors_of_parent? (SyntaxTree.parent?_of_child? hright).1]
  simp only [assignedSymbolFrom?, hkind, hright, if_true]

theorem initializer?_eq_some :
    initializer? u s = some v ↔ ∃ p, u.tree.parent? s.declaration = some p ∧
      u.tree.kind p = "assignment" ∧ u.tree.child? p "left" = some s.declaration ∧
        u.tree.child? p "right" = some v := by
  simp only [initializer?, Option.bind_eq_bind, Option.bind_eq_some_iff, Option.guard_eq_some',
    exists_const, beq_iff_eq]

theorem mem_assignments :
    v ∈ assignments u s ↔ ∃ p ∈ u.tree.preorder (symbolScope u s),
      u.tree.kind p = "assignment" ∧ u.tree.child? p "right" = some v ∧
        ∃ left, u.tree.child? p "left" = some left ∧ left ≠ s.declaration ∧
          ∃ t, assignmentTarget? u left = some t ∧ t.same s = true := by
  simp only [assignments, List.mem_filterMap, valueAssignedTo?, Option.bind_eq_bind,
    Option.bind_eq_some_iff, Option.guard_eq_some', exists_const, Option.pure_def,
    Option.some.injEq, beq_iff_eq, bne_iff_ne]
  constructor
  · rintro ⟨p, hmem, hp, left, hleft, right, hright, hne, t, ht, hsame, rfl⟩
    exact ⟨p, hmem, hp, hright, left, hleft, hne, t, ht, hsame⟩
  · rintro ⟨p, hmem, hp, hright, left, hleft, hne, t, ht, hsame⟩
    exact ⟨p, hmem, hp, left, hleft, v, hright, hne, t, ht, hsame, rfl⟩

/-- **The values of a variable are the expressions that it takes the value of**: what it is first or
later assigned is what, looked at from itself, is assigned to it. -/
theorem isValueOf_iff (hg : Grammatical u.tree) (hs : assignmentTarget? u n = some s) :
    (initializer? u s = some v ∨ v ∈ assignments u s) ↔
      IsAssigned u v ∧ ∃ t, assignedSymbol? u v = some t ∧ t.same s = true := by
  constructor
  · rintro (hinit | hassigned)
    · obtain ⟨p, hparent, hkind, hleft, hright⟩ := initializer?_eq_some.mp hinit
      refine ⟨⟨p, hkind, hright⟩, s, ?_, by simp [Symbol.same]⟩
      rw [assignedSymbol?_of_assignment hkind hright, hleft]
      exact assignmentTarget?_declaration hg hs hparent hkind
    · obtain ⟨p, -, hkind, hright, left, hleft, -, t, ht, hsame⟩ := mem_assignments.mp hassigned
      refine ⟨⟨p, hkind, hright⟩, t, ?_, hsame⟩
      rw [assignedSymbol?_of_assignment hkind hright, hleft]
      exact ht
  · rintro ⟨⟨p, hkind, hright⟩, t, ht, hsame⟩
    rw [assignedSymbol?_of_assignment hkind hright] at ht
    obtain ⟨left, hleft, htarget⟩ := Option.bind_eq_some_iff.mp ht
    by_cases hdeclares : left = s.declaration
    · subst hdeclares
      exact .inl (initializer?_eq_some.mpr
        ⟨p, (SyntaxTree.parent?_of_child? hleft).1, hkind, hleft, hright⟩)
    · have hscope := symbolScope_mem_ancestors hg hkind hleft htarget
      rw [symbolScope_congr hsame] at hscope
      have hlt := Nat.lt_trans (SyntaxTree.lt_of_mem_ancestors hscope)
        (u.tree.lt_size_of_kind_ne (by rw [hkind]; decide))
      exact .inr (mem_assignments.mpr ⟨p, (SyntaxTree.mem_preorder_iff hlt).mpr (.inr hscope),
        hkind, hright, left, hleft, hdeclares, t, htarget, hsame⟩)

end Python
end CryptoUsage
