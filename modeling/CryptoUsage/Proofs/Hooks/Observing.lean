import CryptoUsage.Proofs.Hooks.Mirroring
import Mathlib.Data.List.Basic
import Mathlib.Data.List.Perm.Subperm

/-!
# The order of events

At a site the hooks that fire there are gone through in the order in which they were made, and the
observers of each in the order of registration (`map_observe`).  So an observer and the one that
stands for it are told of the same sites; and if the hooks that fire at a site stand in the same
order in both repositories, then so do the events for those observers (`Mirrors.observe_eq`).

## How it goes

An event names its hook by place, and places are not the same in both repositories.  `notice`
replaces the place by the kind of the hook, and then the events are a list by kinds (`told`).  Of
what a hook of a kind says on the larger side, the part that is for observers that stand for
others is what the hook says on the smaller side (`Mirrors.filter_told`).

It remains to go along the hooks.  Those of the smaller side that fire are among those of the
larger one, and the hypothesis is that both have them in the same order.  Then they are a sublist
(`Mirrors.fires_sublist`, by the first section), and the hooks in between have nothing to say to
anyone in question (`flatMap_eq_of_sublist`).

The first section is about lists only: when a list whose elements are ordered by their indices in
a third one is a sublist of another.
-/

set_option autoImplicit false

namespace CryptoUsage

/-! ## Lists in the order of another one -/

theorem pairwise_idxOf_le {α : Type} [DecidableEq α] {l : List α} (h : l.Nodup) :
    l.Pairwise fun x y => l.idxOf x ≤ l.idxOf y := by
  refine List.pairwise_iff_getElem.mpr ?_
  intro i j hi hj hij
  rw [h.idxOf_getElem i hi, h.idxOf_getElem j hj]
  omega

/-- A list whose elements are among those of another one, and in the order in which both have them
from a third one, is a part of it. -/
theorem sublist_of_pairwise_idxOf {α : Type} [DecidableEq α] {l l' base : List α}
    (hbase : base.Nodup) (hl : l.Sublist base) (hnodup : l'.Nodup) (hsub : l' ⊆ l)
    (horder : l'.Pairwise fun x y => base.idxOf x ≤ base.idxOf y) : l'.Sublist l := by
  obtain ⟨between, hperm, hbetween⟩ := List.subperm_of_subset hnodup hsub
  have hpairwise := (pairwise_idxOf_le hbase).sublist (hbetween.trans hl)
  have heq : between = l' := by
    refine hperm.eq_of_pairwise (fun x y hx _ hxy hyx => ?_) hpairwise horder
    exact (List.idxOf_inj (hl.subset (hbetween.subset hx))).mp (by omega)
  exact heq ▸ hbetween

theorem flatMap_eq_of_sublist {α β : Type} {φ : α → List β} {l l' : List α} (h : l'.Sublist l)
    (hnodup : l.Nodup) (hnil : ∀ x ∈ l, x ∉ l' → φ x = []) : l.flatMap φ = l'.flatMap φ := by
  induction h with
  | slnil => rfl
  | @cons l' l x h ih =>
    obtain ⟨hx, hnodup⟩ := List.nodup_cons.mp hnodup
    rw [List.flatMap_cons, hnil x List.mem_cons_self fun hmem => hx (h.subset hmem),
      List.nil_append]
    exact ih hnodup fun y hy => hnil y (List.mem_cons_of_mem x hy)
  | @cons_cons l' l x h ih =>
    obtain ⟨hx, hnodup⟩ := List.nodup_cons.mp hnodup
    rw [List.flatMap_cons, List.flatMap_cons, ih hnodup fun y hy hy' => ?_]
    refine hnil y (List.mem_cons_of_mem x hy) ?_
    intro hmem
    rcases List.mem_cons.mp hmem with rfl | hmem
    · exact hx hy
    · exact hy' hmem

theorem flatMap_filter {α β : Type} (p : α → Bool) (φ : α → List β) (l : List α) :
    (l.filter p).flatMap φ = l.flatMap fun x => if p x = true then φ x else [] := by
  induction l with
  | nil => rfl
  | cons x l ih =>
    rw [List.filter_cons, List.flatMap_cons]
    split
    · rw [List.flatMap_cons, ih]
    · rw [List.nil_append, ih]

namespace HookRepository

variable {a b : HookRepository} {f : StoreId → StoreId} {g : ObserverId → ObserverId}
  {size count : Nat}

/-! ## Events -/

/-- What an event says: the kind of the hook that fires, the number of the observer, and the
site. -/
def notice (repository : HookRepository) (event : HookEvent) :
    Option HookKind × ObserverId × Site :=
  (repository.kinds[event.hook]?, event.observer, event.trigger)

/-- What a hook of a kind says when it fires: to whom of those who wait on it. -/
def told (repository : HookRepository) (position : Nat) (site : Site) (kind : HookKind) :
    List (Option HookKind × ObserverId × Site) :=
  ((repository.waiting kind).filter fun entry => entry.2.registeredAt < position).map fun entry =>
    (some kind, entry.1, site)

theorem told_eq_nil {position : Nat} {site : Site} {kind : HookKind} (h : kind ∉ a.kinds) :
    a.told position site kind = [] := by
  rw [told, waiting_eq_nil h]
  rfl

/-- The events of a hook that fires. -/
theorem map_eventsOf (h : a.kinds.Nodup) {place : Nat} {hook : Hook}
    (hhook : a.hooks[place]? = some hook) (position : Nat) (site : Site) :
    (eventsOf position site place hook).map a.notice = a.told position site hook.kind := by
  have hkind : a.kinds[place]? = some hook.kind := kinds_getElem? hhook
  rw [told, waiting_of_mem h (List.mem_of_getElem? hhook), eventsOf, List.map_map]
  refine List.map_congr_left ?_
  intro entry _
  rw [Function.comp, notice, hkind]

/-- The events at a site, in the order of the hooks and, for each, of its observers. -/
theorem map_observe (h : a.kinds.Nodup) (u : CompilationUnit) (position : Nat) (site : Site) :
    (a.observe u position site).map a.notice =
      (a.kinds.filter (·.fires u site)).flatMap (a.told position site) := by
  rw [observe, List.map_flatMap, flatMap_filter, kinds, List.flatMap_map]
  conv_rhs => rw [← List.zipIdx_map_fst 0 a.hooks, List.flatMap_map]
  refine List.flatMap_congr ?_
  rintro ⟨hook, place⟩ hmem
  have hhook := List.mem_zipIdx_iff_getElem?.mp hmem
  by_cases hfires : hook.kind.fires u site = true
  · rw [if_pos hfires, ← map_eventsOf h hhook]
    cases hobservers : hook.observers with
    | nil => simp [eventsOf, hobservers]
    | cons entry entries => simp [hfires, hobservers]
  · simp [hfires]

/-- A number that stands for another one waits on behalf of a root that does, and conversely. -/
theorem Mirrors.filter_waiting (h : Mirrors f size count g a b) (kind : HookKind) :
    ((a.waiting kind).filter fun entry => isImage g b.nextObserver entry.1) =
      (b.waiting kind).map (Prod.map g (Observer.rename f)) := by
  rw [← h.waiting kind]
  refine List.filter_congr ?_
  intro entry hentry
  rw [Bool.eq_iff_iff]
  constructor
  · exact h.owner (mem_waiting.mp hentry)
  · intro hroot
    obtain ⟨n, _, -, hn, -⟩ := h.exists_of_isImage (mem_waiting.mp hentry) hroot
    exact isImage_iff.mpr ⟨n, hn⟩

/-- Those who are told and stand for others are told what those are told. -/
theorem Mirrors.filter_told (h : Mirrors f size count g a b) (position : Nat) (site : Site)
    (kind : HookKind) :
    ((a.told position site kind).filter fun notice => isImage g b.nextObserver notice.2.1) =
      (b.told position site kind).map fun notice => (notice.1, g notice.2.1, notice.2.2) := by
  have hfilter := List.filter_comm (fun entry => isImage g b.nextObserver entry.1)
    (fun entry => decide (entry.2.registeredAt < position)) (a.waiting kind)
  rw [told, told, List.filter_map, List.map_map]
  refine (congrArg (List.map _) hfilter).trans ?_
  rw [h.filter_waiting, List.filter_map, List.map_map]
  rfl

/-- If the hooks that fire are in the same order, those of `b` are part of those of `a`. -/
theorem Mirrors.fires_sublist (h : Mirrors f size count g a b) {u : CompilationUnit} {site : Site}
    (horder : (b.kinds.filter (·.fires u site)).Pairwise fun kind kind' =>
      a.kinds.idxOf kind ≤ a.kinds.idxOf kind') :
    (b.kinds.filter (·.fires u site)).Sublist (a.kinds.filter (·.fires u site)) := by
  refine sublist_of_pairwise_idxOf h.orderly.kinds_nodup (List.filter_sublist ..)
    (h.orderly'.kinds_nodup.filter _) ?_ horder
  intro kind hmem
  obtain ⟨hin, hfires⟩ := List.mem_filter.mp hmem
  exact List.mem_filter.mpr ⟨h.kinds hin, hfires⟩

/-- **The events for observers that stand for others are in the order of the events for those**, if
the hooks that fire are. -/
theorem Mirrors.observe_eq (h : Mirrors f size count g a b) {u : CompilationUnit} {position : Nat}
    {site : Site} (horder : (b.kinds.filter (·.fires u site)).Pairwise fun kind kind' =>
      a.kinds.idxOf kind ≤ a.kinds.idxOf kind') :
    ((a.observe u position site).filter fun event => isImage g b.nextObserver event.observer).map
        a.notice =
      (b.observe u position site).map fun event =>
        (b.kinds[event.hook]?, g event.observer, event.trigger) := by
  -- hooks of other kinds have no observers in `b`
  have hnone : ∀ kind ∈ a.kinds.filter (·.fires u site), kind ∉ b.kinds.filter (·.fires u site) →
      b.told position site kind = [] := by
    intro kind hmem hnot
    refine told_eq_nil ?_
    intro hin
    exact hnot (List.mem_filter.mpr ⟨hin, (List.mem_filter.mp hmem).2⟩)
  calc ((a.observe u position site).filter fun event => isImage g b.nextObserver event.observer).map
        a.notice
      = ((a.observe u position site).map a.notice).filter
          fun notice => isImage g b.nextObserver notice.2.1 := by
        rw [List.filter_map]
        rfl
    _ = (a.kinds.filter (·.fires u site)).flatMap fun kind =>
          (b.told position site kind).map fun notice => (notice.1, g notice.2.1, notice.2.2) := by
        rw [map_observe h.orderly.kinds_nodup, List.filter_flatMap]
        exact List.flatMap_congr fun kind _ => h.filter_told position site kind
    _ = ((a.kinds.filter (·.fires u site)).flatMap (b.told position site)).map
          fun notice => (notice.1, g notice.2.1, notice.2.2) := List.map_flatMap.symm
    _ = ((b.kinds.filter (·.fires u site)).flatMap (b.told position site)).map
          fun notice => (notice.1, g notice.2.1, notice.2.2) := by
        rw [flatMap_eq_of_sublist (h.fires_sublist horder) (h.orderly.kinds_nodup.filter _) hnone]
    _ = ((b.observe u position site).map b.notice).map
          fun notice => (notice.1, g notice.2.1, notice.2.2) := by
        rw [map_observe h.orderly'.kinds_nodup]
    _ = (b.observe u position site).map fun event =>
          (b.kinds[event.hook]?, g event.observer, event.trigger) := List.map_map

end HookRepository
end CryptoUsage
