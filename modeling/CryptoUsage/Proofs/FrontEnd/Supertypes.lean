import CryptoUsage.Proofs.FrontEnd.Inheritance
import Mathlib.Data.Finset.Card

/-!
# Supertypes

The supertypes of a declared type are collected depth first, each name once, and a name that is
already found is not followed again.  `IsClear.collects` says why nothing is missed by that: of
the names found since a visit began, each has its own supertypes among the names (`IsSettled`),
whatever was found before.  It takes that a full name leads to one declaration
(`IsClear.snd_of_fst_eq`).

Where it leads to several, nothing of this holds: a name is followed by its last part alone, so a
type of another package is taken for a declared one that is called the same
(`homonym_is_followed`).

## How it goes

* The collection, clause by clause.  A clause is known already, or adds its name, or adds it and
  is followed (`addClause_cases`).  What each new name preserves, the collection preserves
  (`collectSupertypes_preserves`): no name is lost, none is there twice, and each is that of a
  clause.
* Where clauses are clear, the collection goes where they lead (`IsClear.follows_iff`).  So the
  names that it finds are inherited, and it finds all of them if it may go as deep as the paths
  are long (`IsClear.mem_collectSupertypes_iff`).
* The end of the collection.  Every new name is that of a written type, and there are only so
  many; once the collection may go deeper than there are types left to find, it finds the same
  however deep it may go (`collectSupertypes_eq_of_missing_lt`).  This holds in every unit, also
  where inheritance is cyclic.

`supertypes_are_inherited` has all three.  The units behind it are a nested type that inherits a
name on two ways, and one with a type of another package.
-/

set_option autoImplicit false

namespace CryptoUsage
namespace Java

variable {u : CompilationUnit} {d t root : NodeId} {found : List String} {levels : Nat}

/-! ## The collection, clause by clause -/

/-- The declaration in which the collection goes on from a written name. -/
def next? (u : CompilationUnit) (written : String) : Option NodeId :=
  if u.imports.binds written then none else typeNamed? u written

/-- What the clauses of a declaration stand for: the full name in each, and the declaration in which
the collection goes on from there. -/
def clauses (u : CompilationUnit) (d : NodeId) : List (String × Option NodeId) :=
  (directSupertypes u d).map fun t => (qualify u (typeText u t), next? u (typeText u t))

theorem mem_clauses_iff {name : String} {next : Option NodeId} : (name, next) ∈ clauses u d ↔
    ∃ t, Lists u d t ∧ qualify u (typeText u t) = name ∧ next? u (typeText u t) = next := by
  simp only [clauses, List.mem_map, mem_directSupertypes_iff, Prod.mk.injEq]

/-- The names after one clause, where `visit` goes through the clauses of a declaration. -/
def addClause (visit : List String → NodeId → List String) (found : List String)
    (clause : String × Option NodeId) : List String :=
  if found.contains clause.1 then found
  else
    match clause.2 with
    | some parent => visit (found ++ [clause.1]) parent
    | none => found ++ [clause.1]

/-- The collection goes through the clauses in order. -/
theorem collectSupertypes_succ (levels : Nat) (found : List String) (d : NodeId) :
    collectSupertypes u (levels + 1) found d =
      (clauses u d).foldl (addClause (collectSupertypes u levels)) found := by
  rw [collectSupertypes, clauses, List.foldl_map]
  refine List.foldl_ext _ _ _ fun found t _ => ?_
  by_cases himport : u.imports.binds (typeText u t) = true
  · simp [addClause, next?, himport]
  · cases hnext : typeNamed? u (typeText u t) <;> simp [addClause, next?, himport, hnext]

/-- A clause is known, or adds its name, or adds it and is followed. -/
theorem addClause_cases (visit : List String → NodeId → List String) (found : List String)
    (clause : String × Option NodeId) :
    (clause.1 ∈ found ∧ addClause visit found clause = found) ∨
      (clause.1 ∉ found ∧ clause.2 = none ∧ addClause visit found clause = found ++ [clause.1]) ∨
      ∃ parent, clause.1 ∉ found ∧ clause.2 = some parent ∧
        addClause visit found clause = visit (found ++ [clause.1]) parent := by
  by_cases hmem : clause.1 ∈ found
  · exact .inl ⟨hmem, by simp [addClause, hmem]⟩
  · cases hnext : clause.2 with
    | none => exact .inr (.inl ⟨hmem, rfl, by simp [addClause, hmem, hnext]⟩)
    | some parent => exact .inr (.inr ⟨parent, hmem, rfl, by simp [addClause, hmem, hnext]⟩)

/-- The collection goes on from a declaration to another. -/
def Follows (u : CompilationUnit) (d parent : NodeId) : Prop :=
  ∃ name, (name, some parent) ∈ clauses u d

/-- **What each new name preserves, the collection preserves.**  New names come from the clauses of
declarations that the collection gets to. -/
theorem collectSupertypes_preserves {P : List String → Prop}
    (hadd : ∀ found owner clause, Relation.ReflTransGen (Follows u) d owner →
      clause ∈ clauses u owner → clause.1 ∉ found → P found → P (found ++ [clause.1]))
    (hfound : P found) : P (collectSupertypes u levels found d) := by
  induction levels generalizing found d with
  | zero => exact hfound
  | succ levels ih =>
    rw [collectSupertypes_succ]
    refine List.foldlRecOn (motive := P) _ _ hfound fun found hfound clause hclause => ?_
    have hnew (hnot : clause.1 ∉ found) : P (found ++ [clause.1]) :=
      hadd found d clause .refl hclause hnot hfound
    rcases addClause_cases (collectSupertypes u levels) found clause with
      ⟨-, heq⟩ | ⟨hnot, -, heq⟩ | ⟨parent, hnot, hnext, heq⟩
    · rw [heq]
      exact hfound
    · rw [heq]
      exact hnew hnot
    · rw [heq]
      have hfollows : Follows u d parent := ⟨clause.1, hnext ▸ hclause⟩
      exact ih (fun found owner clause howner => hadd found owner clause (.head hfollows howner))
        (hnew hnot)

/-- No name is lost. -/
theorem subset_collectSupertypes : found ⊆ collectSupertypes u levels found d :=
  collectSupertypes_preserves (P := fun names => found ⊆ names)
    (fun _ _ _ _ _ _ h _ hname => List.mem_append_left _ (h hname)) (List.Subset.refl _)

/-- Every name is collected once. -/
theorem nodup_collectSupertypes (h : found.Nodup) : (collectSupertypes u levels found d).Nodup :=
  collectSupertypes_preserves (P := List.Nodup)
    (fun _ _ _ _ _ hnew h => List.nodup_append.mpr ⟨h, by simp, by
      rintro name hname _ hlast rfl
      exact hnew (List.mem_singleton.mp hlast ▸ hname)⟩) h

/-- Every new name is that of a clause to which the collection gets. -/
theorem exists_clause_of_mem_collectSupertypes {name : String}
    (h : name ∈ collectSupertypes u levels found d) (hnew : name ∉ found) :
    ∃ owner clause, Relation.ReflTransGen (Follows u) d owner ∧ clause ∈ clauses u owner ∧
      clause.1 = name := by
  refine collectSupertypes_preserves (P := fun names => ∀ name ∈ names, name ∉ found →
    ∃ owner clause, Relation.ReflTransGen (Follows u) d owner ∧ clause ∈ clauses u owner ∧
      clause.1 = name) ?_ (fun _ h hnew => absurd h hnew) name h hnew
  intro names owner clause howner hclause _ hnames name hname hnew
  rcases List.mem_append.mp hname with hname | hname
  · exact hnames name hname hnew
  · exact ⟨owner, clause, howner, hclause, (List.mem_singleton.mp hname).symm⟩

theorem subset_addClause (levels : Nat) (names : List String) (clause : String × Option NodeId) :
    names ⊆ addClause (collectSupertypes u levels) names clause := by
  rcases addClause_cases (collectSupertypes u levels) names clause with
    ⟨-, heq⟩ | ⟨-, -, heq⟩ | ⟨parent, -, -, heq⟩
  · rw [heq]
    exact List.Subset.refl _
  · rw [heq]
    exact List.subset_append_left _ _
  · rw [heq]
    exact fun _ hname => subset_collectSupertypes (List.mem_append_left _ hname)

/-- After a clause its name is found. -/
theorem mem_addClause (levels : Nat) (names : List String) (clause : String × Option NodeId) :
    clause.1 ∈ addClause (collectSupertypes u levels) names clause := by
  rcases addClause_cases (collectSupertypes u levels) names clause with
    ⟨hmem, heq⟩ | ⟨-, -, heq⟩ | ⟨parent, -, -, heq⟩
  · rw [heq]
    exact hmem
  · rw [heq]
    simp
  · rw [heq]
    exact subset_collectSupertypes (by simp)

/-- The names in the clauses of a declaration are collected. -/
theorem mem_collectSupertypes_of_mem_clauses {clause : String × Option NodeId}
    (hclause : clause ∈ clauses u d) : clause.1 ∈ collectSupertypes u (levels + 1) found d := by
  obtain ⟨before, after, heq⟩ := List.append_of_mem hclause
  rw [collectSupertypes_succ, heq, List.foldl_append, List.foldl_cons]
  exact List.foldlRecOn (motive := fun names => clause.1 ∈ names) _ _ (mem_addClause ..)
    fun names hmem clause _ => subset_addClause levels names clause hmem

/-! ## Where clauses are clear -/

/-- The declarations of types that have names of their own are found by these. -/
theorem typeNamed?_eq_some_iff (hnames : (u.declarations.map Prod.fst).Nodup) {name : String}
    {parent : NodeId} :
    typeNamed? u name = some parent ↔ (Text.simpleName name, parent) ∈ u.declarations := by
  rw [typeNamed?, List.lookup_eq_some_iff]
  constructor
  · rintro ⟨before, after, heq, -⟩
    simp [heq]
  · intro hmem
    obtain ⟨before, after, heq⟩ := List.append_of_mem hmem
    refine ⟨before, after, heq, fun declared hdeclared => ?_⟩
    rw [heq, List.map_append, List.map_cons] at hnames
    rw [bne_iff_ne]
    exact ((List.nodup_append.mp hnames).2.2 _ (List.mem_map_of_mem hdeclared) _
      List.mem_cons_self).symm

/-- The types found since `found` have their own supertypes among the names. -/
def IsSettled (u : CompilationUnit) (root : NodeId) (found names : List String) : Prop :=
  ∀ name ∈ names, name ∉ found → ∀ owner parent, Relation.ReflTransGen (LeadsTo u) root owner →
    (name, some parent) ∈ clauses u owner → ∀ clause ∈ clauses u parent, clause.1 ∈ names

namespace IsClear

variable {owner owner' parent : NodeId} {clause clause' : String × Option NodeId}

/-- What a clause names is inherited. -/
theorem inherits_of_mem_clauses (h : IsClear u root)
    (howner : Relation.ReflTransGen (LeadsTo u) root owner) (hclause : clause ∈ clauses u owner) :
    Inherits u 1 owner clause.1 := by
  obtain ⟨t, ht, hname, -⟩ := mem_clauses_iff.mp hclause
  exact hname ▸ .direct ⟨ht, h.noComment howner ht⟩

variable (hlanguage : u.language = .java) (hnames : (u.declarations.map Prod.fst).Nodup)
  (h : IsClear u root)

include hlanguage hnames h

/-- The collection goes on from a clause to what it denotes. -/
theorem next?_eq_some_iff (howner : Relation.ReflTransGen (LeadsTo u) root owner)
    (ht : Lists u owner t) :
    next? u (typeText u t) = some parent ↔ Denotes u (typeText u t) parent := by
  rw [next?]
  constructor
  · intro hnext
    split at hnext
    · cases hnext
    · next himport =>
      exact h.noHomonym howner ht (by simpa using himport)
        ((typeNamed?_eq_some_iff hnames).mp hnext)
  · intro hdenotes
    rw [hdenotes.binds_eq_false hlanguage]
    exact (typeNamed?_eq_some_iff hnames).mpr hdenotes.1

/-- The collection goes where the clauses lead. -/
theorem follows_iff (howner : Relation.ReflTransGen (LeadsTo u) root owner) :
    Follows u owner parent ↔ LeadsTo u owner parent := by
  constructor
  · rintro ⟨name, hclause⟩
    obtain ⟨t, ht, -, hnext⟩ := mem_clauses_iff.mp hclause
    exact ⟨t, ⟨ht, h.noComment howner ht⟩,
      (h.next?_eq_some_iff hlanguage hnames howner ht).mp hnext⟩
  · rintro ⟨t, ⟨ht, -⟩, hdenotes⟩
    exact ⟨qualify u (typeText u t), mem_clauses_iff.mpr
      ⟨t, ht, rfl, (h.next?_eq_some_iff hlanguage hnames howner ht).mpr hdenotes⟩⟩

/-- The collection gets where the clauses lead. -/
theorem leadsTo_of_follows (hfollows : Relation.ReflTransGen (Follows u) root owner) :
    Relation.ReflTransGen (LeadsTo u) root owner := by
  induction hfollows with
  | refl => exact .refl
  | tail _ hstep ih => exact ih.tail ((h.follows_iff hlanguage hnames ih).mp hstep)

/-- **Clauses with one full name lead to one declaration.** -/
theorem snd_of_fst_eq (howner : Relation.ReflTransGen (LeadsTo u) root owner)
    (howner' : Relation.ReflTransGen (LeadsTo u) root owner') (hclause : clause ∈ clauses u owner)
    (hclause' : clause' ∈ clauses u owner') (heq : clause.1 = clause'.1)
    (hnext : clause.2 = some parent) : clause'.2 = some parent := by
  obtain ⟨t, ht, hname, hparent⟩ := mem_clauses_iff.mp hclause
  obtain ⟨t', ht', hname', hparent'⟩ := mem_clauses_iff.mp hclause'
  have hdenotes : Denotes u (typeText u t) parent :=
    (h.next?_eq_some_iff hlanguage hnames howner ht).mp (hparent.trans hnext)
  have hfull : qualify u (typeText u t) = qualify u (typeText u t') :=
    hname.trans (heq.trans hname'.symm)
  have hsimple : Text.simpleName (typeText u t) = Text.simpleName (typeText u t') := by
    rw [← simpleName_qualify hlanguage, ← simpleName_qualify hlanguage (u := u) (typeText u t'),
      hfull]
  have himport : u.imports.binds (typeText u t') = false := by
    rw [← Bool.not_eq_true]
    exact fun himport => h.noAlias howner ht hdenotes howner' ht' himport hfull
  rw [← hparent']
  refine (h.next?_eq_some_iff hlanguage hnames howner' ht').mpr (h.noHomonym howner' ht' himport ?_)
  rw [← hsimple]
  exact hdenotes.1

/-- One clause leaves the names settled if what it leads to does. -/
theorem isSettled_addClause (hd : Relation.ReflTransGen (LeadsTo u) root d)
    (hclause : clause ∈ clauses u d) {names : List String} (hsettled : IsSettled u root found names)
    (hvisit : ∀ parent, clause.2 = some parent →
      (∀ next ∈ clauses u parent,
        next.1 ∈ collectSupertypes u levels (names ++ [clause.1]) parent) ∧
        IsSettled u root (names ++ [clause.1])
          (collectSupertypes u levels (names ++ [clause.1]) parent)) :
    IsSettled u root found (addClause (collectSupertypes u levels) names clause) := by
  have hold := subset_addClause (u := u) levels names clause
  have hunique {owner parent : NodeId} (howner : Relation.ReflTransGen (LeadsTo u) root owner)
      (hnext : (clause.1, some parent) ∈ clauses u owner) : clause.2 = some parent :=
    h.snd_of_fst_eq hlanguage hnames howner hd hnext hclause rfl rfl
  rcases addClause_cases (collectSupertypes u levels) names clause with
    ⟨-, heq⟩ | ⟨-, hnone, heq⟩ | ⟨parent, -, hnext, heq⟩
  · rw [heq]
    exact hsettled
  · rw [heq] at hold ⊢
    intro name hname hnew owner parent howner hmem next hnext
    rcases List.mem_append.mp hname with hname | hname
    · exact hold (hsettled name hname hnew owner parent howner hmem next hnext)
    · rw [List.mem_singleton.mp hname] at hmem
      rw [hunique howner hmem] at hnone
      cases hnone
  · -- what was settled before stays so, and the visit settles its own names and this one
    obtain ⟨hbelow, hrest⟩ := hvisit parent hnext
    rw [heq] at hold ⊢
    intro name hname hnew owner parent' howner hmem next hnext'
    by_cases hbefore : name ∈ names
    · exact hold (hsettled name hbefore hnew owner parent' howner hmem next hnext')
    by_cases hself : name = clause.1
    · rw [hself] at hmem
      cases hnext.symm.trans (hunique howner hmem)
      exact hbelow next hnext'
    · exact hrest name hname (by simp [hbefore, hself]) owner parent' howner hmem next hnext'

/-- **The collection is complete** where no path of inheritance is longer than it follows. -/
theorem collects (hd : Relation.ReflTransGen (LeadsTo u) root d)
    (hbound : ∀ edges name, Inherits u edges d name → edges ≤ levels) :
    (∀ clause ∈ clauses u d, clause.1 ∈ collectSupertypes u levels found d) ∧
      IsSettled u root found (collectSupertypes u levels found d) := by
  induction levels generalizing found d with
  | zero =>
    refine ⟨fun clause hclause => ?_, fun name hname hnew => absurd hname hnew⟩
    exact absurd (hbound 1 clause.1 (h.inherits_of_mem_clauses hd hclause)) (by decide)
  | succ levels ih =>
    refine ⟨fun clause hclause => mem_collectSupertypes_of_mem_clauses hclause, ?_⟩
    rw [collectSupertypes_succ]
    refine List.foldlRecOn (motive := IsSettled u root found) _ _
      (fun name hname hnew => absurd hname hnew) fun names hsettled clause hclause => ?_
    refine h.isSettled_addClause hlanguage hnames hd hclause hsettled fun parent hnext => ?_
    have hleads : LeadsTo u d parent :=
      (h.follows_iff hlanguage hnames hd).mp ⟨clause.1, hnext ▸ hclause⟩
    exact ih (hd.tail hleads) fun edges name hinherits =>
      Nat.le_of_succ_le_succ (hbound _ _ (.onward hleads hinherits))

/-- **The supertypes of a declaration are those that it inherits from.** -/
theorem mem_collectSupertypes_iff
    (hbound : ∀ edges name, Inherits u edges root name → edges ≤ levels) {name : String} :
    name ∈ collectSupertypes u levels [] root ↔ ∃ edges, Inherits u edges root name := by
  rw [exists_inherits_iff]
  constructor
  · intro hname
    obtain ⟨owner, clause, hfollows, hclause, rfl⟩ :=
      exists_clause_of_mem_collectSupertypes hname List.not_mem_nil
    have howner := h.leadsTo_of_follows hlanguage hnames hfollows
    obtain ⟨t, ht, hname, -⟩ := mem_clauses_iff.mp hclause
    exact ⟨owner, t, howner, ⟨ht, h.noComment howner ht⟩, hname⟩
  · have hcollects : (∀ clause ∈ clauses u root, clause.1 ∈ collectSupertypes u levels [] root) ∧
        IsSettled u root [] (collectSupertypes u levels [] root) :=
      h.collects hlanguage hnames .refl hbound
    obtain ⟨hdirect, hsettled⟩ := hcollects
    have hall (owner : NodeId) (howner : Relation.ReflTransGen (LeadsTo u) root owner) :
        ∀ clause ∈ clauses u owner, clause.1 ∈ collectSupertypes u levels [] root := by
      induction howner with
      | refl => exact hdirect
      | @tail owner parent howner hleads ih =>
        obtain ⟨name, hclause⟩ := (h.follows_iff hlanguage hnames howner).mpr hleads
        exact hsettled name (ih _ hclause) List.not_mem_nil owner parent howner hclause
    rintro ⟨owner, t, howner, ht, rfl⟩
    have hclause : (qualify u (typeText u t), next? u (typeText u t)) ∈ clauses u owner :=
      mem_clauses_iff.mpr ⟨t, ht.1, rfl, rfl⟩
    simpa only using hall owner howner _ hclause

end IsClear

/-! ## The end of the collection -/

/-- The nodes of a unit whose full names are not found, if they are written types. -/
def missing (u : CompilationUnit) (found : List String) : Finset NodeId :=
  (Finset.range u.tree.size).filter fun t => qualify u (typeText u t) ∉ found

theorem missing_subset {names : List String} (h : found ⊆ names) :
    missing u names ⊆ missing u found := by
  intro t ht
  obtain ⟨hlt, hnot⟩ := Finset.mem_filter.mp ht
  exact Finset.mem_filter.mpr ⟨hlt, fun hmem => hnot (h hmem)⟩

/-- There is less to find after each new name. -/
theorem card_missing_lt {clause : String × Option NodeId} (hclause : clause ∈ clauses u d)
    (hnew : clause.1 ∉ found) :
    (missing u (found ++ [clause.1])).card < (missing u found).card := by
  obtain ⟨t, ht, hname, -⟩ := mem_clauses_iff.mp hclause
  refine Finset.card_lt_card ⟨missing_subset (List.subset_append_left _ _), fun hsub => ?_⟩
  have hlt : t < u.tree.size := by
    cases ht with
    | superclass _ hmem => exact SyntaxTree.lt_size_of_mem_namedChildren hmem
    | interface _ _ _ hmem => exact SyntaxTree.lt_size_of_mem_namedChildren hmem
  have hmissing : t ∈ missing u found :=
    Finset.mem_filter.mpr ⟨Finset.mem_range.mpr hlt, hname ▸ hnew⟩
  exact (Finset.mem_filter.mp (hsub hmissing)).2 (by simp [hname])

/-- **The collection ends by itself**: once it may go deeper than there are types to find, it finds
the same names however deep it may go, also where inheritance is cyclic. -/
theorem collectSupertypes_eq_of_missing_lt {levels' : Nat} (h : (missing u found).card < levels)
    (h' : (missing u found).card < levels') :
    collectSupertypes u levels found d = collectSupertypes u levels' found d := by
  induction levels generalizing found d levels' with
  | zero => exact absurd h (Nat.not_lt_zero _)
  | succ levels ih =>
    cases levels' with
    | zero => exact absurd h' (Nat.not_lt_zero _)
    | succ levels' =>
      rw [collectSupertypes_succ, collectSupertypes_succ]
      have hall (rest : List (String × Option NodeId))
          (hrest : ∀ clause ∈ rest, clause ∈ clauses u d) (names : List String)
          (hsub : found ⊆ names) :
          rest.foldl (addClause (collectSupertypes u levels)) names =
            rest.foldl (addClause (collectSupertypes u levels')) names := by
        induction rest generalizing names with
        | nil => rfl
        | cons clause rest ihrest =>
          obtain ⟨hclause, hrest⟩ := List.forall_mem_cons.mp hrest
          have hle := Finset.card_le_card (missing_subset (u := u) hsub)
          have hstep : addClause (collectSupertypes u levels) names clause =
              addClause (collectSupertypes u levels') names clause := by
            by_cases hmem : clause.1 ∈ names
            · simp [addClause, hmem]
            · have hlt := card_missing_lt hclause hmem
              cases hnext : clause.2 with
              | none => simp [addClause, hmem, hnext]
              | some parent =>
                have hvisit : collectSupertypes u levels (names ++ [clause.1]) parent =
                    collectSupertypes u levels' (names ++ [clause.1]) parent :=
                  ih (by omega) (by omega)
                simp [addClause, hmem, hnext, hvisit]
          rw [List.foldl_cons, List.foldl_cons, hstep]
          exact ihrest hrest _ fun _ hname => subset_addClause levels' names clause (hsub hname)
      exact hall _ (fun _ h => h) found (List.Subset.refl _)

/-! ## All supertypes -/

/-- **Supertypes are what is inherited.**  Where clauses are clear and no path of inheritance is
longer than the collection follows, the supertypes of a declared type are what it inherits from.
In every unit, also where inheritance is cyclic, each of them is collected once, and the collection
ends by itself: going deeper than there are nodes changes nothing. -/
theorem supertypes_are_inherited (u : CompilationUnit) (d : NodeId) :
    (u.language = .java → (u.declarations.map Prod.fst).Nodup → IsClear u d →
      (∀ edges name, Inherits u edges d name → edges ≤ maxSupertypeLevels) →
      ∀ name, name ∈ (declaredObjectType u d).supertypes ↔ ∃ edges, Inherits u edges d name) ∧
      (declaredObjectType u d).supertypes.Nodup ∧
      ∀ levels, u.tree.size < levels →
        collectSupertypes u levels [] d = collectSupertypes u (u.tree.size + 1) [] d := by
  refine ⟨fun hlanguage hnames hclear hbound name => ?_, ?_, fun levels hlevels => ?_⟩
  · exact hclear.mem_collectSupertypes_iff hlanguage hnames hbound
  · exact nodup_collectSupertypes .nil
  · have hle : (missing u []).card ≤ u.tree.size :=
      (Finset.card_filter_le _ _).trans_eq (Finset.card_range _)
    exact collectSupertypes_eq_of_missing_lt (by omega) (by omega)

/-! ## A nested type and a name twice

In this program `A` extends a type inside `B`, and comes to `I` in two ways:

    package p; import q.J;
    class A extends B.C implements p.I, J {
    }
    class B {
        class C implements I {
        }
    }
    interface I {
    }
-/

namespace Nested

/-- The nodes of the program. -/
def nodes : Array SyntaxNode := #[
  ⟨none, "program", true, none, ⟨1, 1, 0, 126⟩,
    "package p;\nimport q.J;\nclass A extends B.C implements p.I, J \x7b\n\x7d\n" ++
    "class B \x7b\n    class C implements I \x7b\n    \x7d\n\x7d\ninterface I \x7b\n" ++
    "\x7d\n"⟩,
  ⟨some 0, "package_declaration", true, none, ⟨1, 1, 0, 10⟩, "package p;"⟩,
  ⟨some 1, "package", false, none, ⟨1, 1, 0, 7⟩, "package"⟩,
  ⟨some 1, "identifier", true, none, ⟨1, 9, 8, 9⟩, "p"⟩,
  ⟨some 1, ";", false, none, ⟨1, 10, 9, 10⟩, ";"⟩,
  ⟨some 0, "import_declaration", true, none, ⟨2, 1, 11, 22⟩, "import q.J;"⟩,
  ⟨some 5, "import", false, none, ⟨2, 1, 11, 17⟩, "import"⟩,
  ⟨some 5, "scoped_identifier", true, none, ⟨2, 8, 18, 21⟩, "q.J"⟩,
  ⟨some 7, "identifier", true, some "scope", ⟨2, 8, 18, 19⟩, "q"⟩,
  ⟨some 7, ".", false, none, ⟨2, 9, 19, 20⟩, "."⟩,
  ⟨some 7, "identifier", true, some "name", ⟨2, 10, 20, 21⟩, "J"⟩,
  ⟨some 5, ";", false, none, ⟨2, 11, 21, 22⟩, ";"⟩,
  ⟨some 0, "class_declaration", true, none, ⟨3, 1, 23, 64⟩,
    "class A extends B.C implements p.I, J \x7b\n\x7d"⟩,
  ⟨some 12, "class", false, none, ⟨3, 1, 23, 28⟩, "class"⟩,
  ⟨some 12, "identifier", true, some "name", ⟨3, 7, 29, 30⟩, "A"⟩,
  ⟨some 12, "superclass", true, some "superclass", ⟨3, 9, 31, 42⟩, "extends B.C"⟩,
  ⟨some 15, "extends", false, none, ⟨3, 9, 31, 38⟩, "extends"⟩,
  ⟨some 15, "scoped_type_identifier", true, none, ⟨3, 17, 39, 42⟩, "B.C"⟩,
  ⟨some 17, "type_identifier", true, none, ⟨3, 17, 39, 40⟩, "B"⟩,
  ⟨some 17, ".", false, none, ⟨3, 18, 40, 41⟩, "."⟩,
  ⟨some 17, "type_identifier", true, none, ⟨3, 19, 41, 42⟩, "C"⟩,
  ⟨some 12, "super_interfaces", true, some "interfaces", ⟨3, 21, 43, 60⟩, "implements p.I, J"⟩,
  ⟨some 21, "implements", false, none, ⟨3, 21, 43, 53⟩, "implements"⟩,
  ⟨some 21, "type_list", true, none, ⟨3, 32, 54, 60⟩, "p.I, J"⟩,
  ⟨some 23, "scoped_type_identifier", true, none, ⟨3, 32, 54, 57⟩, "p.I"⟩,
  ⟨some 24, "type_identifier", true, none, ⟨3, 32, 54, 55⟩, "p"⟩,
  ⟨some 24, ".", false, none, ⟨3, 33, 55, 56⟩, "."⟩,
  ⟨some 24, "type_identifier", true, none, ⟨3, 34, 56, 57⟩, "I"⟩,
  ⟨some 23, ",", false, none, ⟨3, 35, 57, 58⟩, ","⟩,
  ⟨some 23, "type_identifier", true, none, ⟨3, 37, 59, 60⟩, "J"⟩,
  ⟨some 12, "class_body", true, some "body", ⟨3, 39, 61, 64⟩, "\x7b\n\x7d"⟩,
  ⟨some 30, "\x7b", false, none, ⟨3, 39, 61, 62⟩, "\x7b"⟩,
  ⟨some 30, "\x7d", false, none, ⟨4, 1, 63, 64⟩, "\x7d"⟩,
  ⟨some 0, "class_declaration", true, none, ⟨5, 1, 65, 109⟩,
    "class B \x7b\n    class C implements I \x7b\n    \x7d\n\x7d"⟩,
  ⟨some 33, "class", false, none, ⟨5, 1, 65, 70⟩, "class"⟩,
  ⟨some 33, "identifier", true, some "name", ⟨5, 7, 71, 72⟩, "B"⟩,
  ⟨some 33, "class_body", true, some "body", ⟨5, 9, 73, 109⟩,
    "\x7b\n    class C implements I \x7b\n    \x7d\n\x7d"⟩,
  ⟨some 36, "\x7b", false, none, ⟨5, 9, 73, 74⟩, "\x7b"⟩,
  ⟨some 36, "class_declaration", true, none, ⟨6, 5, 79, 107⟩,
    "class C implements I \x7b\n    \x7d"⟩,
  ⟨some 38, "class", false, none, ⟨6, 5, 79, 84⟩, "class"⟩,
  ⟨some 38, "identifier", true, some "name", ⟨6, 11, 85, 86⟩, "C"⟩,
  ⟨some 38, "super_interfaces", true, some "interfaces", ⟨6, 13, 87, 99⟩, "implements I"⟩,
  ⟨some 41, "implements", false, none, ⟨6, 13, 87, 97⟩, "implements"⟩,
  ⟨some 41, "type_list", true, none, ⟨6, 24, 98, 99⟩, "I"⟩,
  ⟨some 43, "type_identifier", true, none, ⟨6, 24, 98, 99⟩, "I"⟩,
  ⟨some 38, "class_body", true, some "body", ⟨6, 26, 100, 107⟩, "\x7b\n    \x7d"⟩,
  ⟨some 45, "\x7b", false, none, ⟨6, 26, 100, 101⟩, "\x7b"⟩,
  ⟨some 45, "\x7d", false, none, ⟨7, 5, 106, 107⟩, "\x7d"⟩,
  ⟨some 36, "\x7d", false, none, ⟨8, 1, 108, 109⟩, "\x7d"⟩,
  ⟨some 0, "interface_declaration", true, none, ⟨9, 1, 110, 125⟩, "interface I \x7b\n\x7d"⟩,
  ⟨some 49, "interface", false, none, ⟨9, 1, 110, 119⟩, "interface"⟩,
  ⟨some 49, "identifier", true, some "name", ⟨9, 11, 120, 121⟩, "I"⟩,
  ⟨some 49, "interface_body", true, some "body", ⟨9, 13, 122, 125⟩, "\x7b\n\x7d"⟩,
  ⟨some 52, "\x7b", false, none, ⟨9, 13, 122, 123⟩, "\x7b"⟩,
  ⟨some 52, "\x7d", false, none, ⟨10, 1, 124, 125⟩, "\x7d"⟩]

/-- The unit with the program. -/
def unit : CompilationUnit where
  language := .java
  filePath := "A.java"
  tree := { nodes, parent_lt := by decide +kernel }

end Nested

set_option maxRecDepth 100000 in
/-- The supertypes of `A` are the nested type, what that implements, and what is imported. -/
theorem supertypes_of_nested :
    (declaredObjectType Nested.unit 12).supertypes = ["B.C", "p.I", "q.J"] ∧
      (declaredObjectType Nested.unit 12).supertypes.Nodup ∧
      (∃ edges, Inherits Nested.unit edges 12 "p.I") ∧
      ∀ name, name ∈ (declaredObjectType Nested.unit 12).supertypes ↔
        ∃ edges, Inherits Nested.unit edges 12 name := by
  have hnames : (Nested.unit.declarations.map Prod.fst).Nodup := by decide +kernel
  have hclear : IsClear Nested.unit 12 := isClear_of_declarations rfl (by decide +kernel)
  have hbound : ∀ edges name, Inherits Nested.unit edges 12 name → edges ≤ maxSupertypeLevels := by
    intro edges name h
    have hrank := h.edges_le_of_rank (fun n => if n = 12 then 2 else if n = 38 then 1 else 0)
      (by decide +kernel) .refl
    exact Nat.le_trans hrank (by decide)
  have hvalue : (declaredObjectType Nested.unit 12).supertypes = ["B.C", "p.I", "q.J"] := by
    decide +kernel
  obtain ⟨hinherited, hnodup, -⟩ := supertypes_are_inherited Nested.unit 12
  have hiff := hinherited rfl hnames hclear hbound
  exact ⟨hvalue, hnodup, (hiff "p.I").mp (by rw [hvalue]; decide), hiff⟩

/-! ## A type of another package with the name of a declared one

In this program `A` extends a type of another package, which has the name of one declared here:

    package p;
    class A extends lib.B {
    }
    class B extends lib.C {
    }
-/

namespace Homonym

/-- The nodes of the program. -/
def nodes : Array SyntaxNode := #[
  ⟨none, "program", true, none, ⟨1, 1, 0, 63⟩,
    "package p;\nclass A extends lib.B \x7b\n\x7d\nclass B extends lib.C \x7b\n\x7d\n"⟩,
  ⟨some 0, "package_declaration", true, none, ⟨1, 1, 0, 10⟩, "package p;"⟩,
  ⟨some 1, "package", false, none, ⟨1, 1, 0, 7⟩, "package"⟩,
  ⟨some 1, "identifier", true, none, ⟨1, 9, 8, 9⟩, "p"⟩,
  ⟨some 1, ";", false, none, ⟨1, 10, 9, 10⟩, ";"⟩,
  ⟨some 0, "class_declaration", true, none, ⟨2, 1, 11, 36⟩, "class A extends lib.B \x7b\n\x7d"⟩,
  ⟨some 5, "class", false, none, ⟨2, 1, 11, 16⟩, "class"⟩,
  ⟨some 5, "identifier", true, some "name", ⟨2, 7, 17, 18⟩, "A"⟩,
  ⟨some 5, "superclass", true, some "superclass", ⟨2, 9, 19, 32⟩, "extends lib.B"⟩,
  ⟨some 8, "extends", false, none, ⟨2, 9, 19, 26⟩, "extends"⟩,
  ⟨some 8, "scoped_type_identifier", true, none, ⟨2, 17, 27, 32⟩, "lib.B"⟩,
  ⟨some 10, "type_identifier", true, none, ⟨2, 17, 27, 30⟩, "lib"⟩,
  ⟨some 10, ".", false, none, ⟨2, 20, 30, 31⟩, "."⟩,
  ⟨some 10, "type_identifier", true, none, ⟨2, 21, 31, 32⟩, "B"⟩,
  ⟨some 5, "class_body", true, some "body", ⟨2, 23, 33, 36⟩, "\x7b\n\x7d"⟩,
  ⟨some 14, "\x7b", false, none, ⟨2, 23, 33, 34⟩, "\x7b"⟩,
  ⟨some 14, "\x7d", false, none, ⟨3, 1, 35, 36⟩, "\x7d"⟩,
  ⟨some 0, "class_declaration", true, none, ⟨4, 1, 37, 62⟩, "class B extends lib.C \x7b\n\x7d"⟩,
  ⟨some 17, "class", false, none, ⟨4, 1, 37, 42⟩, "class"⟩,
  ⟨some 17, "identifier", true, some "name", ⟨4, 7, 43, 44⟩, "B"⟩,
  ⟨some 17, "superclass", true, some "superclass", ⟨4, 9, 45, 58⟩, "extends lib.C"⟩,
  ⟨some 20, "extends", false, none, ⟨4, 9, 45, 52⟩, "extends"⟩,
  ⟨some 20, "scoped_type_identifier", true, none, ⟨4, 17, 53, 58⟩, "lib.C"⟩,
  ⟨some 22, "type_identifier", true, none, ⟨4, 17, 53, 56⟩, "lib"⟩,
  ⟨some 22, ".", false, none, ⟨4, 20, 56, 57⟩, "."⟩,
  ⟨some 22, "type_identifier", true, none, ⟨4, 21, 57, 58⟩, "C"⟩,
  ⟨some 17, "class_body", true, some "body", ⟨4, 23, 59, 62⟩, "\x7b\n\x7d"⟩,
  ⟨some 26, "\x7b", false, none, ⟨4, 23, 59, 60⟩, "\x7b"⟩,
  ⟨some 26, "\x7d", false, none, ⟨5, 1, 61, 62⟩, "\x7d"⟩]

/-- The unit with the program. -/
def unit : CompilationUnit where
  language := .java
  filePath := "A.java"
  tree := { nodes, parent_lt := by decide +kernel }

end Homonym

set_option maxRecDepth 100000 in
/-- The supertypes of a declared type of that name are taken for those of the other one. -/
theorem homonym_is_followed :
    ¬ ∀ (u : CompilationUnit) (d : NodeId), u.language = .java →
      (u.declarations.map Prod.fst).Nodup → d ∈ u.declarations.map Prod.snd →
      (∀ edges name, Inherits u edges d name → edges ≤ maxSupertypeLevels) →
      ∀ name, name ∈ (declaredObjectType u d).supertypes ↔ ∃ edges, Inherits u edges d name := by
  intro hclaim
  have hnames : (Homonym.unit.declarations.map Prod.fst).Nodup := by decide +kernel
  have hdeclared : 5 ∈ Homonym.unit.declarations.map Prod.snd := by decide +kernel
  have hbound : ∀ edges name, Inherits Homonym.unit edges 5 name → edges ≤ maxSupertypeLevels := by
    intro edges name h
    have hrank := h.edges_le_of_rank (fun _ => 1) (by decide +kernel) .refl
    exact Nat.le_trans hrank (by decide)
  have hmem : "lib.C" ∈ (declaredObjectType Homonym.unit 5).supertypes := by decide +kernel
  obtain ⟨edges, hinherits⟩ := (hclaim Homonym.unit 5 rfl hnames hdeclared hbound "lib.C").mp hmem
  -- the only clause of `A` names another type, and does not denote the declared one
  have hclause : ∀ t ∈ directSupertypes Homonym.unit 5,
      qualify Homonym.unit (typeText Homonym.unit t) ≠ "lib.C" ∧
        ∀ declared ∈ Homonym.unit.declarations,
          ¬ Denotes Homonym.unit (typeText Homonym.unit t) declared.2 := by
    decide +kernel
  generalize hname : "lib.C" = name at hinherits
  cases hinherits with
  | direct ht => exact (hclause _ (mem_directSupertypes_iff.mpr ht.1)).1 hname.symm
  | onward hleads _ =>
    obtain ⟨t, ht, hdenotes⟩ := hleads
    exact (hclause t (mem_directSupertypes_iff.mpr ht.1)).2 _ hdenotes.1 hdenotes

end Java
end CryptoUsage
