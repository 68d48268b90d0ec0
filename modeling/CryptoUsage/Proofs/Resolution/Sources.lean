import CryptoUsage.Proofs.Resolution.Marking
import CryptoUsage.Proofs.Resolution.Transparency

/-!
# The values of a variable, in order

A variable that is no parameter has the values of what it is declared with, followed by those of
what is assigned to it later, in the order of the assignments in its scope (`valueSources_eq`).
Each of these expressions is looked at with the same selections, frames and path, whatever was
found for the ones before (`resolveWithin_variable`).

So what an expression contributes does not depend on the others.  It is what the expression has by
itself, unless the search comes too deep or comes back to the use of the variable
(`resolveWithin_source`).

## How it goes

* The sources are read off the definition of the unit: the initializer if there is one, and then a
  walk through the scope that keeps the values of plain assignments to the same symbol, in
  pre-order.
* That they contribute one after the other is one step of the search at the use of the variable,
  which is not on the path and which no frame binds.
* For a source alone there is one step more, and one mark less, than for the source inside the
  search from the use.  As in the case of methods that return a parameter, one step makes no
  difference where no call comes too deep (`ResolvesFully.found_asked`), and a mark on a node
  makes none where the search does not come to that node (`Avoids`).

The theorem on the whole way from the sources to a store is in the file on values that are filed
in order.
-/

set_option autoImplicit false

namespace CryptoUsage
namespace CompilationUnit

variable {u : CompilationUnit} {config : ScanConfig} {factory : ValueFactory}
  {selections : List String} {n source : NodeId} {s : Symbol}

/-- The value that a node gives to a variable by a plain assignment. -/
def valueAssignedTo? (u : CompilationUnit) (s : Symbol) (n : NodeId) : Option NodeId :=
  match u.language with
  | .java => Java.valueAssignedTo? u s n
  | .python => Python.valueAssignedTo? u s n

/-- What gives values to a variable: first what it is declared with, then what the nodes of its
scope assign to it, in pre-order. -/
theorem valueSources_eq (u : CompilationUnit) (s : Symbol) :
    u.valueSources s = (u.initializer? s).toList ++
      (u.tree.preorder (u.symbolScope s)).filterMap (u.valueAssignedTo? s) := by
  have hassignments : u.assignments s =
      (u.tree.preorder (u.symbolScope s)).filterMap (u.valueAssignedTo? s) := by
    unfold assignments symbolScope
    cases hlanguage : u.language with
    | java =>
      have hvalue : u.valueAssignedTo? s = Java.valueAssignedTo? u s :=
        funext fun n => by rw [valueAssignedTo?, hlanguage]
      rw [hvalue]
      rfl
    | python =>
      have hvalue : u.valueAssignedTo? s = Python.valueAssignedTo? u s :=
        funext fun n => by rw [valueAssignedTo?, hlanguage]
      rw [hvalue]
      rfl
  rw [valueSources, hassignments]

/-- The use of a variable that is no parameter and not bound by the innermost frame has the values
of everything that gives values to the variable, one after the other. -/
theorem resolveWithin_variable (h : u.expression n = .variable s) (hkind : s.kind ≠ .parameter)
    {path : List NodeId} (hpath : n ∉ path) {frames : List Frame}
    (hfree : ∀ frame ∈ frames.head?, frame.argument? s = none) (steps : Nat) :
    u.resolveWithin config factory (steps + 1) path frames selections n =
      (u.valueSources s).flatMap
        (u.resolveWithin config factory steps (n :: path) frames selections) := by
  have hsources : u.resolveVariable (u.resolveWithin config factory steps (n :: path)) frames
      selections s =
        resolveVariable.bySources u (u.resolveWithin config factory steps (n :: path)) frames
          selections s := by
    cases frames with
    | nil => rfl
    | cons frame outer => simp only [resolveVariable, hfree frame rfl]
  simp only [resolveWithin]
  rw [if_neg (hpath ∘ List.contains_iff_mem.mp), h]
  simp only [resolveShape]
  rw [hsources, resolveVariable.bySources, if_neg hkind]

/-- By itself an expression that gives values to a variable has what it contributes, if nothing
comes too deep and the search for its values does not come back to the use of the variable. -/
theorem resolveWithin_source (h : u.expression n = .variable s) (hkind : s.kind ≠ .parameter)
    (hfull : u.ResolvesFully config factory selections n) (hsource : source ∈ u.valueSources s)
    (havoids : u.Avoids config factory selections source n) :
    u.resolveWithin config factory config.maxResolutionDepth [n] [] selections source =
      u.resolveValue config factory selections source := by
  have hasked : (⟨[], selections, source⟩ : Query) ∈
      (u.valueSearch config factory ⟨[], selections, n⟩).asked
        (Search.found (u.valueSearch config factory) config.maxResolutionDepth {n}) := by
    simp only [valueSearch, h, variableQueries, variableQueries.bySources, if_neg hkind,
      Search.asked_all]
    exact List.mem_map_of_mem hsource
  have hmarks : ∀ v ∈ u.valueVisits config factory selections source,
      v.node ∉ ({n} : Finset NodeId) :=
    fun v hv hmem => havoids v hv (Finset.mem_singleton.mp hmem)
  calc u.resolveWithin config factory config.maxResolutionDepth [n] [] selections source
      = Search.found (u.valueSearch config factory) config.maxResolutionDepth {n}
          ⟨[], selections, source⟩ := (found_valueSearch _ [n] ⟨[], selections, source⟩).symm
    _ = Search.found (u.valueSearch config factory) (config.maxResolutionDepth + 1) (∅ ∪ {n})
          ⟨[], selections, source⟩ := by
        rw [Finset.empty_union]
        exact (hfull.found_asked hasked).symm
    _ = Search.found (u.valueSearch config factory) (config.maxResolutionDepth + 1) ∅
          ⟨[], selections, source⟩ := Search.found_union hmarks
    _ = u.resolveValue config factory selections source := found_valueSearch _ [] _

end CompilationUnit
end CryptoUsage
