import CryptoUsage.FrontEnd.JavaNames
import CryptoUsage.Proofs.Comments.Unit
import CryptoUsage.Proofs.FrontEnd.Nodes

/-!
# Names of Java types without the comments

What the front end asks about the names of types is asked of a unit and of the unit without its
comments, and the answers are the same, nodes in them being renumbered.

Most of the grammar is read by slots and kinds, and there a comment is never met.
`Java.CommentsApart` lists the places where it is: clauses of which every child is a supertype,
types whose name is the child that happens to be first or last, and a search for an identifier by
its text alone.  It is stated for the tree as a whole and bounded by its size, so of a given tree
it can be decided.

## What is here

* The type around a node, the brackets behind a name, and the operands in a row of nodes
  (`enclosingType?`, `bracketCount`, `expressionsOf`) need only that comments are extras.
* A type as it is written (`typeText`) goes down through arrays, generic and annotated types.  The
  induction is on the steps; the two cases that look at the first and at the last child are
  `head?_generic` and `getLast?_annotated`, which is where the structure above is used.
* Full names and supertypes follow: `qualify` asks the imports and the declarations, which are
  known from `Proofs/Comments/Unit`, and `collectSupertypes` goes up level by level with the same
  types met at each (`directSupertypes`).  `declaredObjectType` and `objectTypeNamed` are what the
  queries for types use.
-/

set_option autoImplicit false

namespace CryptoUsage
namespace Java

open SyntaxTree

variable {u : CompilationUnit}

variable (u) in
/-- No comment stands where nodes are taken as they come.  Elsewhere comments are passed over, or
tell themselves apart by what they are called. -/
structure CommentsApart : Prop where
  extras : u.tree.CommentsAreExtras
  /-- No comment reads like a name. -/
  names : ∀ c < u.tree.size, u.tree.isComment c = true →
    ∀ n < u.tree.size, u.tree.kind n = "identifier" → u.tree.text c ≠ u.tree.text n
  /-- Everything in an `extends` clause is taken for a supertype, -/
  superclass : ∀ n < u.tree.size, u.tree.field? n = some "superclass" →
    ∀ c ∈ u.tree.namedChildren n, u.tree.isComment c = false
  /-- and everything in the lists of an `implements` clause. -/
  interfaces : ∀ n < u.tree.size,
    (u.tree.kind n == "super_interfaces" || u.tree.kind n == "extends_interfaces") = true →
      ∀ list ∈ u.tree.namedChildren n,
        ∀ c ∈ u.tree.namedChildren list, u.tree.isComment c = false
  /-- The name of a generic type is what comes first, -/
  generic : ∀ n < u.tree.size, u.tree.kind n = "generic_type" →
    ∀ c ∈ (u.tree.namedChildren n).head?, u.tree.isComment c = false
  /-- and that of an annotated type what comes last. -/
  annotated : ∀ n < u.tree.size, u.tree.kind n = "annotated_type" →
    ∀ c ∈ (u.tree.namedChildren n).getLast?, u.tree.isComment c = false
  /-- The type of a variable parameter is what comes first but for its modifiers. -/
  spread : ∀ n < u.tree.size, u.tree.kind n = "spread_parameter" →
    ∀ c ∈ (u.tree.namedChildren n).find? fun c =>
      u.tree.kind c != "variable_declarator" && u.tree.kind c != "modifiers",
        u.tree.isComment c = false

namespace CommentsApart

variable (h : CommentsApart u)

@[simp] theorem isIn_spoken (category : Category) (n : NodeId) :
    isIn u category (u.tree.spokenId n) = isIn u.withoutComments category n := by
  simp [isIn]

include h

theorem enclosingType? (n : NodeId) : Java.enclosingType? u (u.tree.spokenId n) =
    (Java.enclosingType? u.withoutComments n).map u.tree.spokenId := by
  simp [Java.enclosingType?, ancestors_spoken h.extras, List.find?_map, Function.comp_def]

theorem bracketCount (n : NodeId) :
    Java.bracketCount u (u.tree.spokenId n) = Java.bracketCount u.withoutComments n := by
  rw [Java.bracketCount, Java.bracketCount, List.countP_eq_length_filter,
    List.countP_eq_length_filter, filter_spoken (children_spoken h.extras n) fun c hc =>
      kind_beq_of_isComment hc (by decide)]
  simp

theorem expressionsOf (n : NodeId) : Java.expressionsOf u (u.tree.spokenId n) =
    (Java.expressionsOf u.withoutComments n).map u.tree.spokenId := by
  have hnone : Java.expressionsOf u.withoutComments n = u.tree.withoutComments.namedChildren n :=
    List.filter_eq_self.mpr fun c _ => by
      have hspoken := u.tree.isComment_spokenId c
      rw [SyntaxTree.isComment, kind_spoken] at hspoken
      exact congrArg (!·) hspoken
  rw [hnone]
  exact namedChildren_spoken h.extras n

theorem typeNamed? (name : String) :
    Java.typeNamed? u name = (Java.typeNamed? u.withoutComments name).map u.tree.spokenId := by
  rw [Java.typeNamed?, Java.typeNamed?, CompilationUnit.declarations_spoken h.extras]
  induction u.withoutComments.declarations with
  | nil => rfl
  | cons declaration declarations ih =>
    rw [List.map_cons, List.lookup_cons, List.lookup_cons, Prod.map_fst, id_eq]
    cases Text.simpleName name == declaration.1 with
    | true => rfl
    | false => exact ih

theorem enumNamed? (name : String) :
    Java.enumNamed? u name = (Java.enumNamed? u.withoutComments name).map u.tree.spokenId := by
  rw [Java.enumNamed?, Java.enumNamed?, CompilationUnit.declarations_spoken h.extras,
    List.find?_map, Option.map_map, Option.map_map]
  simp [Function.comp_def]

theorem head?_generic {n : NodeId} (hkind : u.tree.withoutComments.kind n = "generic_type") :
    (u.tree.namedChildren (u.tree.spokenId n)).head? =
      (u.tree.withoutComments.namedChildren n).head?.map u.tree.spokenId := by
  rw [← kind_spoken] at hkind
  exact head?_spoken (namedChildren_spoken h.extras n) (h.generic _
    (u.tree.lt_size_of_kind_ne (by rw [hkind]; decide)) hkind)

theorem getLast?_annotated {n : NodeId}
    (hkind : u.tree.withoutComments.kind n = "annotated_type") :
    (u.tree.namedChildren (u.tree.spokenId n)).getLast? =
      (u.tree.withoutComments.namedChildren n).getLast?.map u.tree.spokenId := by
  rw [← kind_spoken] at hkind
  exact getLast?_spoken (namedChildren_spoken h.extras n) (h.annotated _
    (u.tree.lt_size_of_kind_ne (by rw [hkind]; decide)) hkind)

theorem typeTextWithin (steps : Nat) (n : NodeId) :
    Java.typeTextWithin u steps (u.tree.spokenId n) =
      Java.typeTextWithin u.withoutComments steps n := by
  induction steps generalizing n with
  | zero => simp [Java.typeTextWithin]
  | succ steps ih =>
    simp only [Java.typeTextWithin, kind_spoken, text_spoken,
      child?_spoken h.extras, Option.map_map, Function.comp_def, ih, h.bracketCount]
    split
    · next hkind =>
      have hhead := h.head?_generic hkind
      cases hchildren : u.tree.withoutComments.namedChildren n with
      | nil =>
        rw [hchildren] at hhead
        rw [List.head?_eq_none_iff.mp hhead]
      | cons base rest =>
        rw [hchildren] at hhead
        obtain ⟨rest', hrest⟩ := List.head?_eq_some_iff.mp hhead
        simp only [hrest, ih]
    · rfl
    · next hkind =>
      rw [h.getLast?_annotated hkind]
      cases (u.tree.withoutComments.namedChildren n).getLast? with
      | none => rfl
      | some inner => exact ih inner
    · rfl

theorem typeText (n : NodeId) :
    Java.typeText u (u.tree.spokenId n) = Java.typeText u.withoutComments n := by
  rw [Java.typeText, h.typeTextWithin]
  refine walk_size_spoken h.extras (fun a b n hab => ?_) n
  have hchild (field : String) : (u.tree.withoutComments.child? n field).map
      (Java.typeTextWithin u.withoutComments a) = (u.tree.withoutComments.child? n field).map
      (Java.typeTextWithin u.withoutComments b) := by
    refine Option.map_congr fun c hc => hab c ?_ ?_
    · exact parent?_lt _ (parent?_of_child? hc).1
    · exact lt_size_of_child? hc
  have hnamed {c : NodeId} (hc : c ∈ u.tree.withoutComments.namedChildren n) :=
    hab c (lt_of_mem_namedChildren _ hc) (lt_size_of_mem_namedChildren hc)
  simp only [Java.typeTextWithin, hchild]
  split
  · split
    · next base rest hchildren => exact hnamed (hchildren ▸ List.mem_cons_self)
    · rfl
  · rfl
  · split
    · next inner hinner => exact hnamed (List.mem_of_getLast? hinner)
    · rfl
  · rfl

/-! ## Full names and supertypes -/

theorem qualify (name : String) : Java.qualify u name = Java.qualify u.withoutComments name := by
  simp only [Java.qualify, CompilationUnit.imports_withoutComments h.extras,
    CompilationUnit.package_withoutComments h.extras, h.typeNamed?, Option.isSome_map]

theorem directSupertypes (n : NodeId) : Java.directSupertypes u (u.tree.spokenId n) =
    (Java.directSupertypes u.withoutComments n).map u.tree.spokenId := by
  have hclauses := filter_spoken (p := fun c =>
      u.tree.kind c == "super_interfaces" || u.tree.kind c == "extends_interfaces")
    (namedChildren_spoken h.extras n) fun c hc => by
      rw [kind_beq_of_isComment hc (by decide), kind_beq_of_isComment hc (by decide), Bool.or_false]
  have hinterfaces (clause : NodeId) (hclause : (u.tree.withoutComments.kind clause ==
        "super_interfaces" || u.tree.withoutComments.kind clause == "extends_interfaces") = true) :
      (u.tree.namedChildren (u.tree.spokenId clause)).flatMap u.tree.namedChildren =
        ((u.tree.withoutComments.namedChildren clause).flatMap
          u.tree.withoutComments.namedChildren).map u.tree.spokenId := by
    simp only [← kind_spoken] at hclause
    have hlt : u.tree.spokenId clause < u.tree.size := u.tree.lt_size_of_kind_ne fun hkind => by
      rw [hkind] at hclause
      cases hclause
    -- between the lists of a clause there may be comments, from which nothing hangs
    rw [flatMap_spoken (namedChildren_spoken h.extras clause) fun c hc => by
      rw [namedChildren, h.extras.children_eq_nil hc, List.filter_nil], List.map_flatMap]
    refine List.flatMap_congr fun list hlist => namedChildren_spoken_of_none h.extras ?_
    refine h.interfaces _ hlt hclause _ ?_
    have hmem := List.mem_map_of_mem (f := u.tree.spokenId) hlist
    rw [← namedChildren_spoken h.extras] at hmem
    exact List.mem_of_mem_filter hmem
  have hrest : (((u.tree.namedChildren (u.tree.spokenId n)).filter fun c =>
        u.tree.kind c == "super_interfaces" || u.tree.kind c == "extends_interfaces").flatMap
          u.tree.namedChildren).flatMap u.tree.namedChildren =
      ((((u.tree.withoutComments.namedChildren n).filter fun c =>
        u.tree.withoutComments.kind c == "super_interfaces" ||
          u.tree.withoutComments.kind c == "extends_interfaces").flatMap
            u.tree.withoutComments.namedChildren).flatMap
              u.tree.withoutComments.namedChildren).map u.tree.spokenId := by
    simp only [hclauses, kind_spoken, List.flatMap_assoc, List.flatMap_map, List.map_flatMap]
    refine List.flatMap_congr fun clause hclause => ?_
    rw [hinterfaces clause (List.mem_filter.mp hclause).2, List.map_flatMap]
  unfold Java.directSupertypes
  dsimp only
  rw [hrest, child?_spoken h.extras, List.map_append]
  cases hclause : u.tree.withoutComments.child? n "superclass" with
  | none => rfl
  | some clause =>
    have hchild := child?_spoken h.extras n "superclass"
    rw [hclause] at hchild
    exact congrArg (· ++ _) (namedChildren_spoken_of_none h.extras
      (h.superclass _ (lt_size_of_child? hchild) (parent?_of_child? hchild).2))

theorem collectSupertypes (levels : Nat) (found : List String) (n : NodeId) :
    Java.collectSupertypes u levels found (u.tree.spokenId n) =
      Java.collectSupertypes u.withoutComments levels found n := by
  induction levels generalizing found n with
  | zero => rfl
  | succ levels ih =>
    simp only [Java.collectSupertypes, h.directSupertypes, List.foldl_map, h.typeText,
      h.qualify, h.typeNamed?, CompilationUnit.imports_withoutComments h.extras]
    congr 1
    funext found typeNode
    split
    · rfl
    · split
      · rfl
      · cases Java.typeNamed? u.withoutComments
          (Java.typeText u.withoutComments typeNode) with
        | none => rfl
        | some parent => exact ih ..

theorem declaredObjectType (n : NodeId) : Java.declaredObjectType u (u.tree.spokenId n) =
    Java.declaredObjectType u.withoutComments n := by
  simp [Java.declaredObjectType, child?_spoken h.extras, Function.comp_def, h.qualify,
    h.collectSupertypes]

theorem objectTypeNamed (name : String) :
    Java.objectTypeNamed u name = Java.objectTypeNamed u.withoutComments name := by
  simp only [Java.objectTypeNamed, CompilationUnit.imports_withoutComments h.extras, h.qualify,
    h.typeNamed?]
  split
  · cases Java.typeNamed? u.withoutComments (splitBrackets name).1 with
    | none => rfl
    | some declaration => exact h.declaredObjectType declaration
  · rfl

end CommentsApart
end Java
end CryptoUsage
