import CryptoUsage.Proofs.FrontEnd.Nodes
import CryptoUsage.Proofs.FrontEnd.TypeNames
import Mathlib.Logic.Relation

/-!
# Inheritance as it is written

What a declaration inherits from is said here by its clauses alone: a clause names a type, and the
name leads on if it denotes a type that the unit declares (`Denotes`), which depends on the
package, the imports and the types around the declaration.  How the front end collects supertypes
plays no part in it.

`Inherits` counts the clauses on a path.  Where paths are bounded there is a rank that goes down
along them (`Inherits.edges_le_of_rank`), and there are no cycles.

## What is here

* `Extends` is one clause, and `LeadsTo` one whose type is declared in the unit.  What is
  inherited is written in a clause of a declaration to which such clauses lead
  (`exists_inherits_iff`), and all of these are declarations of the unit
  (`mem_declarations_of_leadsTo`).
* `IsClear` is what has to hold for the simple names of types to be enough: a clause lists no
  comment, and what has the simple name of a declared type denotes it unless it is imported.  The
  front end follows a clause by the simple name, so this is the hypothesis under which it does the
  right thing.
* Looking at every declaration.  Both the clearness of clauses and a rank can be given by going
  through the declarations of a unit and what they list (`isClear_of_declarations`,
  `Inherits.edges_le_of_rank`); that is how they are established for a unit that is at hand.
-/

set_option autoImplicit false

namespace CryptoUsage
namespace Java

section Written

variable (u : CompilationUnit)

/-- A declaration lists a node in one of its clauses: in that of its superclass, or in a list of
interfaces. -/
inductive Lists (d t : NodeId) : Prop
  | superclass {clause : NodeId} (child : u.tree.child? d "superclass" = some clause)
    (mem : t ∈ u.tree.namedChildren clause)
  | interface {clause list : NodeId} (child : clause ∈ u.tree.namedChildren d)
    (kind : u.tree.kind clause = "super_interfaces" ∨ u.tree.kind clause = "extends_interfaces")
    (list_mem : list ∈ u.tree.namedChildren clause) (mem : t ∈ u.tree.namedChildren list)

/-- A declaration extends or implements the type that is written at a node. -/
def Extends (d t : NodeId) : Prop := Lists u d t ∧ isComment u t = false

/-- The names of the types around a declaration, outermost first. -/
def enclosingNames (d : NodeId) : List String :=
  ((u.tree.ancestors d).filter (isIn u .typeDeclaration)).reverse.map fun owner =>
    ((u.tree.child? owner "name").map u.tree.text).getD ""

/-- What may stand in front of the name of a declared type: the package, or the types around the
declaration, from any of them inwards, also after the package. -/
def qualifiers (d : NodeId) : List String :=
  let whole := u.package.toList ++ enclosingNames u d
  u.package.toList ++ (whole.tails.filter fun part => !part.isEmpty).map (".".intercalate ·)

/-- A written name denotes a declared type: unqualified and not imported, or with a qualifier of the
declaration. -/
def Denotes (written : String) (d : NodeId) : Prop :=
  (Text.simpleName written, d) ∈ u.declarations ∧
    match Text.splitQualified? written with
    | none => u.imports.binds written = false
    | some (qualifier, _) => qualifier ∈ qualifiers u d

instance (written : String) (d : NodeId) : Decidable (Denotes u written d) :=
  match hsplit : Text.splitQualified? written with
  | none =>
    decidable_of_iff
      ((Text.simpleName written, d) ∈ u.declarations ∧ u.imports.binds written = false)
      (by rw [Denotes, hsplit])
  | some (qualifier, _) =>
    decidable_of_iff
      ((Text.simpleName written, d) ∈ u.declarations ∧ qualifier ∈ qualifiers u d)
      (by rw [Denotes, hsplit])

/-- A declaration extends or implements a type that another one declares. -/
def LeadsTo (d parent : NodeId) : Prop := ∃ t, Extends u d t ∧ Denotes u (typeText u t) parent

/-- A declaration inherits from a type with a full name, on a path of so many clauses. -/
inductive Inherits : Nat → NodeId → String → Prop
  | direct {d t : NodeId} (h : Extends u d t) : Inherits 1 d (qualify u (typeText u t))
  | onward {d parent : NodeId} {edges : Nat} {name : String} (h : LeadsTo u d parent)
    (rest : Inherits edges parent name) : Inherits (edges + 1) d name

/-- What is written in the clauses that count for a declaration is clear from the simple names of
types. -/
structure IsClear (d : NodeId) : Prop where
  /-- No clause has a comment in it. -/
  noComment : ∀ {owner t}, Relation.ReflTransGen (LeadsTo u) d owner → Lists u owner t →
    isComment u t = false
  /-- What is named like a declared type is that type, unless it is imported. -/
  noHomonym : ∀ {owner t parent}, Relation.ReflTransGen (LeadsTo u) d owner → Lists u owner t →
    u.imports.binds (typeText u t) = false →
    (Text.simpleName (typeText u t), parent) ∈ u.declarations → Denotes u (typeText u t) parent
  /-- What is imported is no declared type that is also written in another way. -/
  noAlias : ∀ {owner t parent owner' t'}, Relation.ReflTransGen (LeadsTo u) d owner →
    Lists u owner t → Denotes u (typeText u t) parent →
    Relation.ReflTransGen (LeadsTo u) d owner' → Lists u owner' t' →
    u.imports.binds (typeText u t') = true → qualify u (typeText u t) ≠ qualify u (typeText u t')

end Written

variable {u : CompilationUnit} {d t : NodeId}

/-- What denotes a declared type is not imported. -/
theorem Denotes.binds_eq_false {written : String} {parent : NodeId}
    (hlanguage : u.language = .java) (h : Denotes u written parent) :
    u.imports.binds written = false := by
  cases hsplit : Text.splitQualified? written with
  | none =>
    rw [Denotes, hsplit] at h
    exact h.2
  | some parts =>
    refine binds_eq_false_of_isQualified hlanguage (Decidable.byContradiction fun hplain => ?_)
    rw [Bool.not_eq_true, ← Text.splitQualified?_eq_none_iff, hsplit] at hplain
    cases hplain

/-- What is inherited is written in a clause of a declaration to which the clauses lead. -/
theorem exists_inherits_iff {name : String} : (∃ edges, Inherits u edges d name) ↔
    ∃ owner t, Relation.ReflTransGen (LeadsTo u) d owner ∧ Extends u owner t ∧
      qualify u (typeText u t) = name := by
  constructor
  · rintro ⟨edges, hinherits⟩
    induction hinherits with
    | @direct d t h => exact ⟨d, t, .refl, h, rfl⟩
    | onward hleads _ ih =>
      obtain ⟨owner, t, howner, ht, hname⟩ := ih
      exact ⟨owner, t, .head hleads howner, ht, hname⟩
  · rintro ⟨owner, t, howner, ht, rfl⟩
    induction howner using Relation.ReflTransGen.head_induction_on with
    | refl => exact ⟨1, .direct ht⟩
    | head hleads _ ih =>
      obtain ⟨edges, hinherits⟩ := ih
      exact ⟨edges + 1, .onward hleads hinherits⟩

/-! ## Looking at every declaration -/

/-- A type that something leads to is declared. -/
theorem mem_declarations_of_leadsTo {owner : NodeId}
    (h : Relation.ReflTransGen (LeadsTo u) d owner) : owner ∈ d :: u.declarations.map Prod.snd := by
  induction h with
  | refl => exact List.mem_cons_self
  | tail _ hleads _ =>
    obtain ⟨_, _, hdenotes⟩ := hleads
    exact List.mem_cons_of_mem _ (List.mem_map_of_mem hdenotes.1)

/-- What is collected from is what a declaration lists. -/
theorem mem_directSupertypes_iff : t ∈ directSupertypes u d ↔ Lists u d t := by
  simp only [directSupertypes, List.mem_append, List.mem_flatMap, List.mem_filter,
    Bool.or_eq_true, beq_iff_eq]
  constructor
  · rintro (hmem | ⟨list, ⟨clause, ⟨hchild, hkind⟩, hlist⟩, hmem⟩)
    · split at hmem
      · next hchild => exact .superclass hchild hmem
      · cases hmem
    · exact .interface hchild hkind hlist hmem
  · rintro (⟨hchild, hmem⟩ | ⟨hchild, hkind, hlist, hmem⟩)
    · exact .inl (by simpa only [hchild] using hmem)
    · exact .inr ⟨_, ⟨_, ⟨hchild, hkind⟩, hlist⟩, hmem⟩

/-- Clauses are clear if those of all declarations are. -/
theorem isClear_of_declarations (hlanguage : u.language = .java)
    (h : ∀ owner ∈ d :: u.declarations.map Prod.snd, ∀ t ∈ directSupertypes u owner,
      isComment u t = false ∧
        (u.imports.binds (typeText u t) = false → ∀ declared ∈ u.declarations,
          Text.simpleName (typeText u t) = declared.1 → Denotes u (typeText u t) declared.2) ∧
        (u.imports.binds (typeText u t) = true → ∀ owner' ∈ d :: u.declarations.map Prod.snd,
          ∀ t' ∈ directSupertypes u owner', u.imports.binds (typeText u t') = false →
            qualify u (typeText u t') ≠ qualify u (typeText u t))) :
    IsClear u d where
  noComment howner ht :=
    (h _ (mem_declarations_of_leadsTo howner) _ (mem_directSupertypes_iff.mpr ht)).1
  noHomonym howner ht himport hmem :=
    (h _ (mem_declarations_of_leadsTo howner) _ (mem_directSupertypes_iff.mpr ht)).2.1 himport _
      hmem rfl
  noAlias howner ht hdenotes howner' ht' himport :=
    (h _ (mem_declarations_of_leadsTo howner') _ (mem_directSupertypes_iff.mpr ht')).2.2 himport _
      (mem_declarations_of_leadsTo howner) _ (mem_directSupertypes_iff.mpr ht)
      (hdenotes.binds_eq_false hlanguage)

/-- A rank that goes down along inheritance bounds its paths. -/
theorem Inherits.edges_le_of_rank (rank : NodeId → Nat) {root : NodeId}
    (hrank : ∀ owner ∈ root :: u.declarations.map Prod.snd, ∀ t ∈ directSupertypes u owner,
      0 < rank owner ∧ ∀ declared ∈ u.declarations,
        Denotes u (typeText u t) declared.2 → rank declared.2 < rank owner)
    {edges : Nat} {name : String} (hd : Relation.ReflTransGen (LeadsTo u) root d)
    (h : Inherits u edges d name) : edges ≤ rank d := by
  induction h with
  | direct ht =>
    exact (hrank _ (mem_declarations_of_leadsTo hd) _ (mem_directSupertypes_iff.mpr ht.1)).1
  | @onward d parent edges _ hleads _ ih =>
    have hle := ih (hd.tail hleads)
    obtain ⟨t, ht, hdenotes⟩ := hleads
    have hlt : rank parent < rank d :=
      (hrank d (mem_declarations_of_leadsTo hd) t (mem_directSupertypes_iff.mpr ht.1)).2 _
        hdenotes.1 hdenotes
    omega

end Java
end CryptoUsage
