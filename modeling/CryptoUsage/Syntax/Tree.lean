import CryptoUsage.Text.Utf8

/-!
# Syntax trees

A syntax tree is the table of its nodes in depth-first pre-order, so a node is its number and the
root is `0`.  Every node is written after its parent (`SyntaxTree.parent_lt`).  That one fact
makes the walks of this file end: going up, numbers decrease, and going down they increase, so
neither takes more steps than there are nodes.

The tree of a unit comes with everything that is ever read from its source: each node carries the
text it spans and its location, so nothing after `SyntaxTree.ofRows?` looks at the source again.

## What is here

* Nodes.  Kind, text, slot and location of a node, its parent and its children; a number that is
  no node has a kind and a text that are empty.
* Walks.  `ancestors` lists the nodes above one, nearest first, `preorder` a whole subtree, and
  `preorderWhile` a subtree without what lies below certain nodes.
* `SyntaxTree.ofRows?` makes a tree of what a parser hands over, which is a row for each node, and
  of the source text, from which texts, lines and columns are cut.  It checks that every row comes
  after its parent's.
-/

set_option autoImplicit false

namespace CryptoUsage

/-- The number of a node in the depth-first pre-order of its tree. -/
abbrev NodeId := Nat

/-- The place of a node: line and column of its start, counted from one, the column in bytes, and
the range of its bytes. -/
structure Location where
  line : Nat
  column : Nat
  startByte : Nat
  endByte : Nat
deriving DecidableEq, Repr, Ord

/-- A node of a syntax tree. -/
structure SyntaxNode where
  /-- The node under which it hangs, unless it is the root. -/
  parent : Option NodeId
  /-- The grammar's name for the construct. -/
  kind : String
  /-- Whether the grammar has a rule for it; punctuation and keywords are anonymous. -/
  named : Bool
  /-- The name of the slot it fills in its parent, if it fills one. -/
  field : Option String
  location : Location
  /-- The source text it spans. -/
  text : String
deriving DecidableEq, Repr

/-- The children of every node, in order. -/
def childTableOf (nodes : Array SyntaxNode) : Array (List NodeId) :=
  Array.ofFn fun p : Fin nodes.size =>
    (List.range nodes.size).filter fun c => nodes[c]?.bind (·.parent) == some p.val

/-- A syntax tree: its nodes in pre-order.  The table of children is determined by the nodes and
kept so that it is computed once. -/
structure SyntaxTree where
  nodes : Array SyntaxNode
  /-- A parent is written before its children. -/
  parent_lt : ∀ n : Fin nodes.size, nodes[n].parent.all (· < n.val) = true := by decide
  childTable : Array (List NodeId) := childTableOf nodes
  childTable_eq : childTable = childTableOf nodes := by rfl

namespace SyntaxTree

variable (t : SyntaxTree)

/-- The node from which every other one hangs. -/
def root : NodeId := 0

/-- The number of nodes. -/
def size : Nat := t.nodes.size

/-- The grammar's name for a node; empty for a number that is no node. -/
def kind (n : NodeId) : String := (t.nodes[n]?.map (·.kind)).getD ""

/-- The text a node spans; empty for a number that is no node. -/
def text (n : NodeId) : String := (t.nodes[n]?.map (·.text)).getD ""

/-- Whether a node is named. -/
def isNamed (n : NodeId) : Bool := (t.nodes[n]?.map (·.named)).getD false

/-- The slot a node fills in its parent. -/
def field? (n : NodeId) : Option String := t.nodes[n]?.bind (·.field)

/-- The place of a node. -/
def location (n : NodeId) : Location := (t.nodes[n]?.map (·.location)).getD ⟨1, 1, 0, 0⟩

/-- The node under which a node hangs. -/
def parent? (n : NodeId) : Option NodeId := t.nodes[n]?.bind (·.parent)

/-- The children of a node, in order. -/
def children (n : NodeId) : List NodeId := t.childTable.getD n []

/-- The named children of a node, in order. -/
def namedChildren (n : NodeId) : List NodeId := (t.children n).filter t.isNamed

/-- The children of a node that fill the given slot, in order. -/
def childrenIn (n : NodeId) (field : String) : List NodeId :=
  (t.children n).filter fun c => t.field? c == some field

/-- The first child of a node that fills the given slot. -/
def child? (n : NodeId) (field : String) : Option NodeId :=
  (t.children n).find? fun c => t.field? c == some field

/-- The first `steps` nodes above `n`, nearest first. -/
def ancestorsWithin : Nat → NodeId → List NodeId
  | 0, _ => []
  | steps + 1, n =>
    match t.parent? n with
    | none => []
    | some p => p :: ancestorsWithin steps p

/-- The nodes above `n`, nearest first.  Numbers decrease on the way up, so there are at most `n`
of them. -/
def ancestors (n : NodeId) : List NodeId := t.ancestorsWithin n n

/-- The nodes of the subtree at `n` down to the given height, in pre-order, without what lies below
the nodes that `enter` refuses. -/
def preorderWithin (enter : NodeId → Bool) : Nat → NodeId → List NodeId
  | 0, _ => []
  | height + 1, n =>
    n :: if enter n then (t.children n).flatMap (preorderWithin enter height) else []

/-- The subtree at `n` in pre-order, without what lies below the nodes that `enter` refuses; those
nodes themselves are listed.  No branch is longer than the number of nodes. -/
def preorderWhile (enter : NodeId → Bool) (n : NodeId) : List NodeId :=
  t.preorderWithin enter t.size n

/-- The whole subtree at `n` in pre-order. -/
def preorder (n : NodeId) : List NodeId := t.preorderWhile (fun _ => true) n

theorem parent?_lt {n p : NodeId} (h : t.parent? n = some p) : p < n := by
  rw [parent?, Option.bind_eq_some_iff] at h
  obtain ⟨node, hnode, hp⟩ := h
  obtain ⟨hn, hget⟩ := Array.getElem?_eq_some_iff.mp hnode
  have hall := t.parent_lt ⟨n, hn⟩
  rw [Fin.getElem_fin, hget, hp] at hall
  simpa using hall

theorem mem_children_iff {n c : NodeId} :
    c ∈ t.children n ↔ n < t.size ∧ t.parent? c = some n := by
  rw [children, t.childTable_eq, childTableOf, Array.getD_eq_getD_getElem?, Array.getElem?_ofFn]
  by_cases hn : n < t.nodes.size
  · rw [dif_pos hn, Option.getD_some, List.mem_filter, List.mem_range, beq_iff_eq, parent?, size]
    refine ⟨fun h => ⟨hn, h.2⟩, fun h => ⟨?_, h.2⟩⟩
    obtain ⟨node, hnode, -⟩ := Option.bind_eq_some_iff.mp h.2
    exact (Array.getElem?_eq_some_iff.mp hnode).1
  · rw [dif_neg hn, size]
    simp [hn]

end SyntaxTree

/-- A node as a parser hands it over: everything but what the source determines. -/
structure NodeRow where
  parent : Option NodeId
  kind : String
  named : Bool
  field : Option String
  startByte : Nat
  endByte : Nat

/-- The node that a row describes, given the bytes of the source and the starts of its lines. -/
def NodeRow.toNode (bytes : ByteArray) (starts : List Nat) (row : NodeRow) : SyntaxNode :=
  let (line, column) := Text.rowAndColumn starts row.startByte
  { parent := row.parent
    kind := row.kind
    named := row.named
    field := row.field
    location :=
      { line := line + 1, column := column + 1, startByte := row.startByte, endByte := row.endByte }
    text := Text.slice bytes row.startByte row.endByte }

/-- The tree with the given rows over a source text, if every row comes after its parent's. -/
def SyntaxTree.ofRows? (source : String) (rows : Array NodeRow) : Option SyntaxTree :=
  let starts := Text.lineStarts source
  let nodes := rows.map (NodeRow.toNode source.toUTF8 starts)
  if h : ∀ n : Fin nodes.size, nodes[n].parent.all (· < n.val) = true then
    some { nodes, parent_lt := h }
  else none

end CryptoUsage
