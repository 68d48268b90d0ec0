import CryptoUsage.Proofs.Syntax.Nesting
import Mathlib.Data.List.Basic
import Mathlib.Order.Monotone.Basic

/-!
# Trees without their comments

A parser hangs comments into the tree as nodes of their own, anywhere.  `SyntaxTree.withoutComments`
is the tree without them.  Nodes are known by their numbers, so the others get new ones;
`SyntaxTree.spokenId` leads from those back to the old ones.  It keeps the order, and numbers that
are no nodes of the new tree go to numbers that are none of the old one, so it is injective on all
numbers (`spokenId_strictMono`).

What is asked of a tree is then asked of both, and the answers are compared.  What a node carries
is the same (`kind_spoken` and the like).  For the rest it has to be known what comments are:
`CommentsAreExtras` says that nothing hangs from them, that they fill no slot, that the root is
none, and that they stand with the other nodes in the order of the source, which is so wherever
they are put in by a parser.  Then

* going up meets the same nodes (`parent?_spoken`, `ancestors_spoken`),
* so does going to a slot (`child?_spoken`, `childrenIn_spoken`), and
* the children of a node and what a walk down meets are the same but for the comments
  (`children_spoken`, `preorderWhile_spoken`).

Of the last two there are forms for code that searches a list or picks from it, and does not look at
comments when it does (`find?_spoken` and those after it).

A walk down in the tree with comments is given more steps than it needs in the other one.  That this
makes no difference is stated once for everything that goes from a node to later ones
(`walk_size_spoken`).
-/

set_option autoImplicit false

namespace CryptoUsage

namespace SyntaxTree

variable (t : SyntaxTree)

/-- Whether a node is a comment. -/
def isComment (n : NodeId) : Bool := "comment".toList.isSuffixOf (t.kind n).toList

/-- The nodes that are no comments, in order. -/
def spoken : List NodeId := (List.range t.size).filter fun n => !t.isComment n

/-- A node as it is in the tree without comments: only its parent is known by another number. -/
def spokenNode (n : NodeId) : SyntaxNode where
  parent := (t.parent? n).bind fun p => t.spoken.idxOf? p
  kind := t.kind n
  named := t.isNamed n
  field := t.field? n
  location := t.location n
  text := t.text n

theorem spoken_sorted : t.spoken.Pairwise (· < ·) := List.pairwise_lt_range.filter _

/-- Numbers are given anew in order, so parents stay in front of their children. -/
theorem parent_spokenNode_lt {i j : Nat} (hi : i < t.spoken.length)
    (hj : (t.spokenNode t.spoken[i]).parent = some j) : j < i := by
  obtain ⟨p, hp, hidx⟩ := Option.bind_eq_some_iff.mp hj
  obtain ⟨hlt, hget, -⟩ := List.findIdx?_eq_some_iff_getElem.mp hidx
  have hparent : t.spoken[j] < t.spoken[i] := by
    rw [beq_iff_eq.mp hget]
    exact t.parent?_lt hp
  by_contra hge
  rcases Nat.lt_or_eq_of_le (Nat.le_of_not_lt hge) with hlt' | rfl
  · have horder := List.pairwise_iff_getElem.mp t.spoken_sorted i j hi hlt hlt'
    exact absurd hparent (Nat.lt_asymm horder)
  · exact absurd hparent (Nat.lt_irrefl _)

/-- The tree without its comments.  The other nodes keep their order, and everything but their
numbers. -/
def withoutComments : SyntaxTree where
  nodes := (t.spoken.map t.spokenNode).toArray
  parent_lt := by
    intro n
    have hn : n.val < t.spoken.length := by simpa using n.isLt
    have hnode : (t.spoken.map t.spokenNode).toArray[n] = t.spokenNode t.spoken[n.val] := by simp
    rw [hnode]
    cases hparent : (t.spokenNode t.spoken[n.val]).parent with
    | none => rfl
    | some j => exact decide_eq_true (t.parent_spokenNode_lt hn hparent)

/-- The number, among all nodes, of a node of the tree without comments.  What is no node there is
none here. -/
def spokenId (i : Nat) : Nat :=
  let beyond : Nat := t.size + (i - t.spoken.length)
  t.spoken.getD i beyond

theorem size_withoutComments : t.withoutComments.size = t.spoken.length := by
  simp [size, withoutComments]

theorem size_withoutComments_le : t.withoutComments.size ≤ t.size := by
  rw [size_withoutComments, spoken]
  simpa using List.length_filter_le (fun n => !t.isComment n) (List.range t.size)

theorem getElem?_withoutComments (i : NodeId) :
    t.withoutComments.nodes[i]? = t.spoken[i]?.map t.spokenNode := by
  simp [withoutComments]

theorem spokenId_of_lt {i : Nat} (hi : i < t.spoken.length) : t.spokenId i = t.spoken[i] := by
  rw [spokenId, List.getD_eq_getElem?_getD, List.getElem?_eq_getElem hi, Option.getD_some]

theorem spokenId_of_le {i : Nat} (hi : t.spoken.length ≤ i) :
    t.spokenId i = t.size + (i - t.spoken.length) := by
  rw [spokenId, List.getD_eq_getElem?_getD, List.getElem?_eq_none hi, Option.getD_none]

theorem lt_size_of_mem_spoken {n : NodeId} (h : n ∈ t.spoken) : n < t.size :=
  List.mem_range.mp (List.mem_of_mem_filter h)

theorem spokenId_lt_iff {i : Nat} : t.spokenId i < t.size ↔ i < t.spoken.length := by
  rcases Nat.lt_or_ge i t.spoken.length with hi | hi
  · simpa [hi, spokenId_of_lt t hi] using t.lt_size_of_mem_spoken (List.getElem_mem hi)
  · rw [spokenId_of_le t hi]
    omega

/-- The order of the nodes is kept, and so is what comes after them. -/
theorem spokenId_strictMono : StrictMono t.spokenId := by
  intro i j hij
  rcases Nat.lt_or_ge j t.spoken.length with hj | hj
  · have hi : i < t.spoken.length := Nat.lt_trans hij hj
    rw [spokenId_of_lt t hi, spokenId_of_lt t hj]
    exact List.pairwise_iff_getElem.mp t.spoken_sorted i j hi hj hij
  · rcases Nat.lt_or_ge i t.spoken.length with hi | hi
    · have hlt := t.spokenId_lt_iff.mpr hi
      rw [spokenId_of_le t hj]
      omega
    · rw [spokenId_of_le t hi, spokenId_of_le t hj]
      omega

@[simp] theorem spokenId_inj {i j : Nat} : t.spokenId i = t.spokenId j ↔ i = j :=
  t.spokenId_strictMono.injective.eq_iff

@[simp] theorem map_spokenId_eq_some {node : Option NodeId} {i : NodeId} :
    node.map t.spokenId = some (t.spokenId i) ↔ node = some i := by
  rw [← Option.map_some, (Option.map_injective t.spokenId_strictMono.injective).eq_iff]

theorem map_spokenId_range : (List.range t.spoken.length).map t.spokenId = t.spoken := by
  refine List.ext_getElem (by simp) fun j hj hj' => ?_
  rw [List.getElem_map, List.getElem_range, spokenId_of_lt t hj']

/-- Every node but the comments has a number in the tree without comments. -/
theorem exists_spokenId {n : NodeId} (hn : n < t.size) (h : t.isComment n = false) :
    ∃ i < t.spoken.length, t.spokenId i = n := by
  have hmem : n ∈ t.spoken := List.mem_filter.mpr ⟨List.mem_range.mpr hn, by simp [h]⟩
  obtain ⟨i, hi, rfl⟩ := List.getElem_of_mem hmem
  exact ⟨i, hi, t.spokenId_of_lt hi⟩

/-- So has every other number that is no comment's. -/
theorem exists_spokenId_eq {n : NodeId} (h : t.isComment n = false) :
    ∃ i, t.spokenId i = n := by
  rcases Nat.lt_or_ge n t.size with hn | hn
  · obtain ⟨i, -, hi⟩ := t.exists_spokenId hn h
    exact ⟨i, hi⟩
  · refine ⟨t.spoken.length + (n - t.size), ?_⟩
    rw [spokenId_of_le t (Nat.le_add_right ..), Nat.add_sub_cancel_left]
    exact Nat.add_sub_of_le hn

theorem isComment_spokenId (i : Nat) : t.isComment (t.spokenId i) = false := by
  rcases Nat.lt_or_ge i t.spoken.length with hi | hi
  · rw [spokenId_of_lt t hi]
    simpa using List.of_mem_filter (List.getElem_mem hi)
  · have hge : t.size ≤ t.spokenId i := Nat.le_of_not_lt (mt t.spokenId_lt_iff.mp (by omega))
    rw [isComment, kind, Array.getElem?_eq_none hge]
    rfl

variable {t} in
/-- What a comment is called tells it from every other construct. -/
theorem kind_ne_of_isComment {n : NodeId} (h : t.isComment n = true) {kind : String}
    (hkind : "comment".toList.isSuffixOf kind.toList = false) : t.kind n ≠ kind := by
  rintro rfl
  rw [isComment, hkind] at h
  cases h

variable {t} in
theorem kind_beq_of_isComment {n : NodeId} (h : t.isComment n = true) {kind : String}
    (hkind : "comment".toList.isSuffixOf kind.toList = false) : (t.kind n == kind) = false :=
  beq_false_of_ne (kind_ne_of_isComment h hkind)

variable {t} in
theorem contains_kind_of_isComment {n : NodeId} (h : t.isComment n = true) {kinds : List String}
    (hkinds : (kinds.any fun kind => "comment".toList.isSuffixOf kind.toList) = false) :
    kinds.contains (t.kind n) = false := by
  rw [← Bool.not_eq_true, List.contains_iff_mem]
  intro hmem
  exact List.any_eq_false.mp hkinds _ hmem h

/-! ## What a node carries -/

/-- Everything about a node is as it was, but for the number of its parent. -/
theorem map_getElem?_spoken {α : Type} (read : SyntaxNode → α)
    (hread : ∀ node parent, read { node with parent } = read node) (i : NodeId) :
    t.nodes[t.spokenId i]?.map read = t.withoutComments.nodes[i]?.map read := by
  rw [getElem?_withoutComments]
  rcases Nat.lt_or_ge i t.spoken.length with hi | hi
  · have hlt : t.spoken[i] < t.nodes.size := t.lt_size_of_mem_spoken (List.getElem_mem hi)
    have hnode : read (t.spokenNode t.spoken[i]) = read t.nodes[t.spoken[i]] := by
      rw [← hread t.nodes[t.spoken[i]] (t.spokenNode t.spoken[i]).parent]
      simp [spokenNode, kind, isNamed, field?, location, text, hlt]
    rw [spokenId_of_lt t hi, List.getElem?_eq_getElem hi, Array.getElem?_eq_getElem hlt,
      Option.map_some, Option.map_some, Option.map_some, hnode]
  · have hge : t.nodes.size ≤ t.spokenId i :=
      Nat.le_of_not_lt (mt t.spokenId_lt_iff.mp (Nat.not_lt_of_le hi))
    rw [List.getElem?_eq_none hi, Array.getElem?_eq_none hge]
    rfl

@[simp] theorem kind_spoken (i : NodeId) : t.kind (t.spokenId i) = t.withoutComments.kind i := by
  rw [kind, kind, map_getElem?_spoken t (·.kind) fun _ _ => rfl]

@[simp] theorem text_spoken (i : NodeId) : t.text (t.spokenId i) = t.withoutComments.text i := by
  rw [text, text, map_getElem?_spoken t (·.text) fun _ _ => rfl]

theorem map_text_spoken (node : Option NodeId) :
    (node.map t.spokenId).map t.text = node.map t.withoutComments.text := by
  simp [Function.comp_def]

@[simp] theorem isNamed_spoken (i : NodeId) :
    t.isNamed (t.spokenId i) = t.withoutComments.isNamed i := by
  rw [isNamed, isNamed, map_getElem?_spoken t (·.named) fun _ _ => rfl]

@[simp] theorem location_spoken (i : NodeId) :
    t.location (t.spokenId i) = t.withoutComments.location i := by
  rw [location, location, map_getElem?_spoken t (·.location) fun _ _ => rfl]

@[simp] theorem field?_spoken (i : NodeId) :
    t.field? (t.spokenId i) = t.withoutComments.field? i := by
  have hjoin (node : Option SyntaxNode) : (node.map (·.field)).join = node.bind (·.field) := by
    cases node <;> rfl
  rw [field?, field?, ← hjoin, ← hjoin, map_getElem?_spoken t (·.field) fun _ _ => rfl]

/-! ## Going up -/

/-- What is known of the comments of a tree that comes from a parser. -/
structure CommentsAreExtras : Prop where
  /-- The tree is not a comment as a whole. -/
  root : t.isComment root = false
  /-- Nothing hangs from a comment. -/
  leaf : ∀ n < t.size, t.isComment n = true → t.children n = []
  /-- A comment fills no slot. -/
  slotless : ∀ n < t.size, t.isComment n = true → t.field? n = none
  /-- What hangs from a node, comments included, is in the order of the source. -/
  ordered : ∀ n < t.size, (t.namedChildren n).Pairwise fun a b =>
    (t.location a).startByte ≤ (t.location b).startByte

instance : Decidable t.CommentsAreExtras :=
  decidable_of_iff (t.isComment root = false ∧
      (∀ n < t.size, t.isComment n = true → t.children n = []) ∧
      (∀ n < t.size, t.isComment n = true → t.field? n = none) ∧
      ∀ n < t.size, (t.namedChildren n).Pairwise fun a b =>
        (t.location a).startByte ≤ (t.location b).startByte)
    ⟨fun ⟨root, leaf, slotless, ordered⟩ => ⟨root, leaf, slotless, ordered⟩,
      fun ⟨root, leaf, slotless, ordered⟩ => ⟨root, leaf, slotless, ordered⟩⟩

variable {t}

theorem lt_size_of_isComment {n : NodeId} (h : t.isComment n = true) : n < t.size :=
  t.lt_size_of_kind_ne (kind_ne_of_isComment h (by decide))

theorem CommentsAreExtras.children_eq_nil (h : t.CommentsAreExtras) {n : NodeId}
    (hn : t.isComment n = true) : t.children n = [] := h.leaf n (lt_size_of_isComment hn) hn

theorem CommentsAreExtras.field?_eq_none (h : t.CommentsAreExtras) {n : NodeId}
    (hn : t.isComment n = true) : t.field? n = none := h.slotless n (lt_size_of_isComment hn) hn

theorem CommentsAreExtras.isComment_parent? (h : t.CommentsAreExtras) {n p : NodeId}
    (hp : t.parent? n = some p) : t.isComment p = false := by
  rw [Bool.eq_false_iff]
  intro hcomment
  have hmem := mem_children_of_parent? hp
  rw [h.children_eq_nil hcomment] at hmem
  cases hmem

theorem spokenId_root (h : t.CommentsAreExtras) : t.spokenId root = root := by
  rcases Nat.eq_zero_or_pos t.size with hsize | hsize
  · have hspoken : t.spoken = [] := by simp [spoken, hsize]
    rw [spokenId_of_le t (by simp [hspoken]), hsize, hspoken]
    rfl
  · obtain ⟨i, -, hi⟩ := t.exists_spokenId hsize h.root
    have hle : t.spokenId root ≤ t.spokenId i := t.spokenId_strictMono.monotone (Nat.zero_le i)
    exact Nat.eq_zero_of_le_zero (hi ▸ hle)

/-- A node hangs where it hung before. -/
@[simp] theorem parent?_spoken (h : t.CommentsAreExtras) (i : NodeId) :
    t.parent? (t.spokenId i) = (t.withoutComments.parent? i).map t.spokenId := by
  rcases Nat.lt_or_ge i t.spoken.length with hi | hi
  · have hnew : t.withoutComments.parent? i =
        (t.parent? (t.spokenId i)).bind fun p => t.spoken.idxOf? p := by
      rw [parent?, getElem?_withoutComments, List.getElem?_eq_getElem hi, spokenId_of_lt t hi]
      rfl
    rw [hnew]
    cases hparent : t.parent? (t.spokenId i) with
    | none => rfl
    | some p =>
      have hp : p < t.size := Nat.lt_trans (t.parent?_lt hparent) (t.spokenId_lt_iff.mpr hi)
      obtain ⟨j, hj, rfl⟩ := t.exists_spokenId hp (h.isComment_parent? hparent)
      have hidx : t.spoken.idxOf? (t.spokenId j) = some j := by
        refine List.findIdx?_eq_some_iff_getElem.mpr ⟨hj, by simp [spokenId_of_lt t hj], ?_⟩
        intro k hk
        have horder := t.spokenId_strictMono hk
        rw [spokenId_of_lt t (Nat.lt_trans hk hj)] at horder
        simpa using Nat.ne_of_lt horder
      simp [hidx]
  · have hge : t.nodes.size ≤ t.spokenId i :=
      Nat.le_of_not_lt (mt t.spokenId_lt_iff.mp (Nat.not_lt_of_le hi))
    rw [parent?, parent?, Array.getElem?_eq_none hge, getElem?_withoutComments,
      List.getElem?_eq_none hi]
    rfl

/-- What is nothing in the one tree, and so is the root, is nothing in the other. -/
theorem getD_root_spoken (h : t.CommentsAreExtras) (node : Option NodeId) :
    (node.map t.spokenId).getD root = t.spokenId (node.getD root) := by
  cases node with
  | none => exact (spokenId_root h).symm
  | some n => rfl

@[simp] theorem ancestors_spoken (h : t.CommentsAreExtras) (i : NodeId) :
    t.ancestors (t.spokenId i) = (t.withoutComments.ancestors i).map t.spokenId := by
  induction i using Nat.strongRecOn with
  | ind i ih =>
    have hparent := parent?_spoken h i
    cases hnew : t.withoutComments.parent? i with
    | none =>
      rw [hnew, Option.map_none] at hparent
      rw [ancestors_of_no_parent hnew, ancestors_of_no_parent hparent, List.map_nil]
    | some p =>
      rw [hnew, Option.map_some] at hparent
      rw [ancestors_of_parent? hnew, ancestors_of_parent? hparent, List.map_cons,
        ih p (parent?_lt _ hnew)]

/-! ## Going to children -/

/-- The children of a node are its children but for the comments. -/
theorem children_spoken (h : t.CommentsAreExtras) (i : NodeId) :
    (t.children (t.spokenId i)).filter (fun c => !t.isComment c) =
      (t.withoutComments.children i).map t.spokenId := by
  have hparents : (List.range t.spoken.length).filter
      (fun j => t.withoutComments.parent? j == some i) =
      (List.range t.spoken.length).filter
        ((fun c => t.parent? c == some (t.spokenId i)) ∘ t.spokenId) := by
    refine List.filter_congr fun j _ => ?_
    rw [Function.comp_apply, parent?_spoken h]
    cases t.withoutComments.parent? j <;> simp
  calc (t.children (t.spokenId i)).filter (fun c => !t.isComment c)
      = t.spoken.filter fun c => t.parent? c == some (t.spokenId i) := by
        rw [children_eq_filter, spoken, List.filter_filter, List.filter_filter]
        exact List.filter_congr fun c _ => Bool.and_comm ..
    _ = (t.withoutComments.children i).map t.spokenId := by
        rw [children_eq_filter, size_withoutComments, hparents, ← List.filter_map,
          map_spokenId_range]

theorem namedChildren_spoken (h : t.CommentsAreExtras) (i : NodeId) :
    (t.namedChildren (t.spokenId i)).filter (fun c => !t.isComment c) =
      (t.withoutComments.namedChildren i).map t.spokenId := by
  have hnamed : t.withoutComments.isNamed = t.isNamed ∘ t.spokenId :=
    funext fun j => (t.isNamed_spoken j).symm
  rw [namedChildren, namedChildren, hnamed, ← List.filter_map, ← children_spoken h,
    List.filter_filter, List.filter_filter]
  exact List.filter_congr fun c _ => Bool.and_comm ..

/-- Where no comment is among the children, they are the same. -/
theorem namedChildren_spoken_of_none (h : t.CommentsAreExtras) {i : NodeId}
    (hnone : ∀ c ∈ t.namedChildren (t.spokenId i), t.isComment c = false) :
    t.namedChildren (t.spokenId i) = (t.withoutComments.namedChildren i).map t.spokenId := by
  rw [← namedChildren_spoken h]
  exact (List.filter_eq_self.mpr fun c hc => by simp [hnone c hc]).symm

/-- A search that passes over the comments finds the same. -/
theorem find?_spoken {l l' : List NodeId} {p : NodeId → Bool}
    (hl : l.filter (fun c => !t.isComment c) = l'.map t.spokenId)
    (hp : ∀ c, t.isComment c = true → p c = false) :
    l.find? p = (l'.find? fun c => p (t.spokenId c)).map t.spokenId := by
  have hsame : l.find? p = (l.filter fun c => !t.isComment c).find? p := by
    rw [List.find?_filter]
    congr 1
    funext c
    cases hc : t.isComment c <;> simp [hp, hc]
  rw [hsame, hl, List.find?_map]
  rfl

theorem filter_spoken {l l' : List NodeId} {p : NodeId → Bool}
    (hl : l.filter (fun c => !t.isComment c) = l'.map t.spokenId)
    (hp : ∀ c, t.isComment c = true → p c = false) :
    l.filter p = (l'.filter fun c => p (t.spokenId c)).map t.spokenId := by
  have hsame : l.filter p = (l.filter fun c => !t.isComment c).filter p := by
    rw [List.filter_filter]
    refine List.filter_congr fun c _ => ?_
    cases hc : t.isComment c <;> simp [hp, hc]
  rw [hsame, hl, List.filter_map]
  rfl

theorem filterMap_spoken {α : Type} {l l' : List NodeId} {f : NodeId → Option α}
    (hl : l.filter (fun c => !t.isComment c) = l'.map t.spokenId)
    (hf : ∀ c, t.isComment c = true → f c = none) :
    l.filterMap f = l'.filterMap fun c => f (t.spokenId c) := by
  have hsame : l.filterMap f = (l.filter fun c => !t.isComment c).filterMap f := by
    rw [List.filterMap_filter]
    refine List.filterMap_congr fun c _ => ?_
    cases hc : t.isComment c <;> simp [hf, hc]
  rw [hsame, hl, List.filterMap_map]
  rfl

theorem flatMap_spoken {α : Type} {l l' : List NodeId} {f : NodeId → List α}
    (hl : l.filter (fun c => !t.isComment c) = l'.map t.spokenId)
    (hf : ∀ c, t.isComment c = true → f c = []) :
    l.flatMap f = l'.flatMap fun c => f (t.spokenId c) := by
  have hsame : l.flatMap f = (l.filter fun c => !t.isComment c).flatMap f := by
    clear hl
    induction l with
    | nil => rfl
    | cons c l ih => cases hc : t.isComment c <;> simp [hc, hf, ih]
  rw [hsame, hl, List.flatMap_map]

/-- What comes first is the same, unless it is a comment. -/
theorem head?_spoken {l l' : List NodeId}
    (hl : l.filter (fun c => !t.isComment c) = l'.map t.spokenId)
    (hhead : ∀ c ∈ l.head?, t.isComment c = false) : l.head? = l'.head?.map t.spokenId := by
  cases l with
  | nil =>
    rw [List.filter_nil] at hl
    rw [List.map_eq_nil_iff.mp hl.symm]
    rfl
  | cons c l =>
    rw [List.filter_cons_of_pos (by simp [hhead c rfl])] at hl
    rw [← List.head?_map, ← hl]
    rfl

/-- What comes last is the same, unless it is a comment. -/
theorem getLast?_spoken {l l' : List NodeId}
    (hl : l.filter (fun c => !t.isComment c) = l'.map t.spokenId)
    (hlast : ∀ c ∈ l.getLast?, t.isComment c = false) :
    l.getLast? = l'.getLast?.map t.spokenId := by
  rw [← List.head?_reverse, ← List.head?_reverse]
  refine head?_spoken ?_ fun c hc => hlast c (List.head?_reverse ▸ hc)
  rw [List.filter_reverse, hl, List.map_reverse]

/-- A search finds the same, unless it finds a comment. -/
theorem find?_spoken_of_found {l l' : List NodeId} {p : NodeId → Bool}
    (hl : l.filter (fun c => !t.isComment c) = l'.map t.spokenId)
    (hfound : ∀ c ∈ l.find? p, t.isComment c = false) :
    l.find? p = (l'.find? fun c => p (t.spokenId c)).map t.spokenId := by
  rw [← List.head?_filter] at hfound
  rw [← List.head?_filter, ← List.head?_filter]
  refine head?_spoken ?_ hfound
  rw [List.filter_comm, hl, List.filter_map]
  rfl

theorem any_spoken {l l' : List NodeId} {p : NodeId → Bool}
    (hl : l.filter (fun c => !t.isComment c) = l'.map t.spokenId)
    (hp : ∀ c, t.isComment c = true → p c = false) :
    l.any p = l'.any fun c => p (t.spokenId c) := by
  rw [← List.isSome_find?, ← List.isSome_find?, find?_spoken hl hp, Option.isSome_map]

/-- What is made of one node after the other is the same if it takes no notice of the comments. -/
theorem foldl_spoken {α : Type} {l l' : List NodeId} {f : α → NodeId → α}
    (hl : l.filter (fun c => !t.isComment c) = l'.map t.spokenId)
    (hf : ∀ a c, t.isComment c = true → f a c = a) (a : α) :
    l.foldl f a = l'.foldl (fun a c => f a (t.spokenId c)) a := by
  have hsame : l.foldl f a = (l.filter fun c => !t.isComment c).foldl f a := by
    rw [List.foldl_filter]
    congr 1
    funext a c
    cases hc : t.isComment c <;> simp [hf, hc]
  rw [hsame, hl, List.foldl_map]

/-- Of a list in order, what comes before a point is what is before it. -/
theorem takeWhile_eq_filter {α : Type} {l : List α} {p : α → Bool}
    (h : l.Pairwise fun a b => p b = true → p a = true) : l.takeWhile p = l.filter p := by
  induction h with
  | nil => rfl
  | @cons a l hall _ ih =>
    cases ha : p a with
    | true => rw [List.takeWhile_cons_of_pos ha, List.filter_cons_of_pos ha, ih]
    | false =>
      have hnone : l.filter p = [] := List.filter_eq_nil_iff.mpr fun b hb hpb => by
        rw [hall b hb hpb] at ha
        cases ha
      rw [List.takeWhile_cons_of_neg (by simp [ha]), List.filter_cons_of_neg (by simp [ha]), hnone]

/-- The children of a node that start before a point of the source are the same but for the
comments. -/
theorem takeWhile_namedChildren_spoken (h : t.CommentsAreExtras) (i : NodeId) (position : Nat) :
    ((t.namedChildren (t.spokenId i)).takeWhile fun c =>
        (t.location c).startByte < position).filter (fun c => !t.isComment c) =
      ((t.withoutComments.namedChildren i).takeWhile fun c =>
        (t.withoutComments.location c).startByte < position).map t.spokenId := by
  have hsorted : (t.namedChildren (t.spokenId i)).Pairwise fun a b =>
      (t.location a).startByte ≤ (t.location b).startByte := by
    rcases Nat.lt_or_ge (t.spokenId i) t.size with hi | hi
    · exact h.ordered _ hi
    · rw [namedChildren, List.eq_nil_iff_forall_not_mem.mpr fun c hc =>
        absurd ((t.mem_children_iff).mp hc).1 (Nat.not_lt_of_le hi)]
      exact .nil
  have hsorted' : (t.withoutComments.namedChildren i).Pairwise fun a b =>
      (t.withoutComments.location a).startByte ≤ (t.withoutComments.location b).startByte := by
    have hspoken := hsorted.filter fun c => !t.isComment c
    rw [namedChildren_spoken h, List.pairwise_map] at hspoken
    simpa using hspoken
  rw [takeWhile_eq_filter, takeWhile_eq_filter, List.filter_filter]
  · simp only [← location_spoken]
    rw [show (fun c => decide ((t.location (t.spokenId c)).startByte < position)) =
      (fun c => decide ((t.location c).startByte < position)) ∘ t.spokenId from rfl,
      ← List.filter_map, ← namedChildren_spoken h, List.filter_filter]
    exact List.filter_congr fun c _ => Bool.and_comm ..
  · exact hsorted'.imp fun hle hlt =>
      decide_eq_true (Nat.lt_of_le_of_lt hle (of_decide_eq_true hlt))
  · exact hsorted.imp fun hle hlt => decide_eq_true (Nat.lt_of_le_of_lt hle (of_decide_eq_true hlt))

/-- A slot is filled by what filled it before. -/
@[simp] theorem child?_spoken (h : t.CommentsAreExtras) (i : NodeId) (field : String) :
    t.child? (t.spokenId i) field = (t.withoutComments.child? i field).map t.spokenId := by
  rw [child?, child?, find?_spoken (children_spoken h i)]
  · simp
  · intro c hc
    simp [h.field?_eq_none hc]

@[simp] theorem childrenIn_spoken (h : t.CommentsAreExtras) (i : NodeId) (field : String) :
    t.childrenIn (t.spokenId i) field = (t.withoutComments.childrenIn i field).map t.spokenId := by
  rw [childrenIn, childrenIn, filter_spoken (children_spoken h i)]
  · simp
  · intro c hc
    simp [h.field?_eq_none hc]

/-! ## Walking down -/

/-- What a node has from later nodes it has after as many steps as there are such nodes, and further
steps change nothing. -/
theorem eq_of_descends {α : Type} {size : Nat} {walk : Nat → NodeId → α}
    (hwalk : ∀ a b n, (∀ c, n < c → c < size → walk a c = walk b c) →
      walk (a + 1) n = walk (b + 1) n)
    {a b n : Nat} (ha : 0 < a) (hb : 0 < b) (hna : size - n ≤ a) (hnb : size - n ≤ b) :
    walk a n = walk b n := by
  induction a generalizing b n with
  | zero => omega
  | succ a ih =>
    obtain ⟨b, rfl⟩ := Nat.exists_eq_add_one_of_ne_zero (Nat.ne_of_gt hb)
    exact hwalk _ _ _ fun c hc hlt => ih (by omega) (by omega) (by omega) (by omega)

/-- As many steps as the tree with comments has nodes are enough, and no more than enough, for the
tree without them. -/
theorem walk_size_spoken (h : t.CommentsAreExtras) {α : Type} {walk : Nat → NodeId → α}
    (hwalk : ∀ a b n, (∀ c, n < c → c < t.withoutComments.size → walk a c = walk b c) →
      walk (a + 1) n = walk (b + 1) n) (i : NodeId) :
    walk t.size i = walk t.withoutComments.size i := by
  have hle := t.size_withoutComments_le
  rcases Nat.eq_zero_or_pos t.size with hsize | hsize
  · have hnone : t.withoutComments.size = 0 := Nat.eq_zero_of_le_zero (hsize ▸ hle)
    rw [hsize, hnone]
  · have hpos : 0 < t.withoutComments.size := by
      obtain ⟨j, hj, -⟩ := t.exists_spokenId hsize h.root
      rw [size_withoutComments]
      omega
    exact eq_of_descends hwalk hsize hpos (by omega) (by omega)

theorem preorderWithin_spoken (h : t.CommentsAreExtras) (enter : NodeId → Bool) (height : Nat)
    (i : NodeId) :
    (t.preorderWithin enter height (t.spokenId i)).filter (fun c => !t.isComment c) =
      (t.withoutComments.preorderWithin (fun n => enter (t.spokenId n)) height i).map
        t.spokenId := by
  induction height generalizing i with
  | zero => rfl
  | succ height ih =>
    -- what is met below a comment is the comment
    have hcomment (c : NodeId) (hc : t.isComment c = true) :
        (t.preorderWithin enter height c).filter (fun c => !t.isComment c) = [] := by
      cases height <;> simp [preorderWithin, h.children_eq_nil hc, hc]
    have hbelow : ((t.children (t.spokenId i)).flatMap (t.preorderWithin enter height)).filter
        (fun c => !t.isComment c) = ((t.children (t.spokenId i)).filter
          (fun c => !t.isComment c)).flatMap fun c =>
            (t.preorderWithin enter height c).filter fun c => !t.isComment c := by
      induction t.children (t.spokenId i) with
      | nil => rfl
      | cons c l ihl =>
        rw [List.flatMap_cons, List.filter_append, ihl]
        cases hc : t.isComment c <;> simp [hc, hcomment]
    rw [preorderWithin, preorderWithin, List.filter_cons_of_pos (by simp [isComment_spokenId]),
      List.map_cons]
    split
    · rw [hbelow, children_spoken h, List.flatMap_map, List.map_flatMap]
      simp only [ih]
    · rfl

/-- A walk down meets the same but for the comments. -/
theorem preorderWhile_spoken (h : t.CommentsAreExtras) (enter : NodeId → Bool) (i : NodeId) :
    (t.preorderWhile enter (t.spokenId i)).filter (fun c => !t.isComment c) =
      (t.withoutComments.preorderWhile (fun n => enter (t.spokenId n)) i).map t.spokenId := by
  rw [preorderWhile, preorderWhile, preorderWithin_spoken h]
  congr 1
  refine walk_size_spoken h (fun a b n hab => ?_) i
  have hbelow : (t.withoutComments.children n).flatMap
      (t.withoutComments.preorderWithin (fun n => enter (t.spokenId n)) a) =
      (t.withoutComments.children n).flatMap
        (t.withoutComments.preorderWithin (fun n => enter (t.spokenId n)) b) := by
    refine List.flatMap_congr fun c hc => ?_
    have hparent := parent?_of_mem_children hc
    exact hab c (parent?_lt _ hparent) (lt_size_of_parent? _ hparent)
  rw [preorderWithin, preorderWithin, hbelow]

theorem preorder_spoken (h : t.CommentsAreExtras) (i : NodeId) :
    (t.preorder (t.spokenId i)).filter (fun c => !t.isComment c) =
      (t.withoutComments.preorder i).map t.spokenId := preorderWhile_spoken h ..

end SyntaxTree
end CryptoUsage
