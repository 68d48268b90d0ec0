import CryptoUsage.Store.Arena

/-!
# Findings

A finding is what is reported of a tree of stores: a snapshot of the rules, actions and values in
it.  The places of stores and the sites they matched are left out, so two snapshots are equal when
they say the same.  `FindingNode` has decidable equality, and a finding counts as known when one
with an equal tree is known.

## What is here

* `FindingNode` is a tree: a rule, an action, the values by index and the snapshots of the
  children by index.  Whether two are equal is decided by a recursion over them.
* `allValues` lists the values of a snapshot depth first, the action of a node before its values
  and these before its children.
* Reports.  The document of a snapshot leaves out what is empty; rules appear by their labels.
* `Arena.project` takes a snapshot of a store and of all that is below it.  It goes down as many
  levels as there are stores, which is enough for any tree.
* `Finding` adds the rule, the bundle, the file and the location to the snapshot of a root.  Two
  findings say the same if their trees are equal (`same`), and `dedup` leaves out those that say
  the same as an earlier one.
-/

set_option autoImplicit false

namespace CryptoUsage

/-- A snapshot of a store and of what is below it. -/
inductive FindingNode where
  | node (rule : RuleId) (action : Option DetectedValue) (values : Slots DetectedValue)
      (children : List (Int × List FindingNode))

namespace FindingNode

/-- The rule of the store. -/
def rule : FindingNode → RuleId
  | node rule _ _ _ => rule

/-- The action of the store. -/
def action : FindingNode → Option DetectedValue
  | node _ action _ _ => action

/-- The values of the store by index. -/
def values : FindingNode → Slots DetectedValue
  | node _ _ values _ => values

/-- The snapshots of the children of the store by index. -/
def children : FindingNode → Slots FindingNode
  | node _ _ _ children => children

mutual

/-- Whether two snapshots are equal. -/
def decideEq : (a b : FindingNode) → Decidable (a = b)
  | node rule action values children, node rule' action' values' children' =>
    if h : rule = rule' ∧ action = action' ∧ values = values' then
      match decideSlotsEq children children' with
      | isTrue hc => isTrue (by rw [h.1, h.2.1, h.2.2, hc])
      | isFalse hc => isFalse (by rintro ⟨⟩; exact hc rfl)
    else isFalse (by rintro ⟨⟩; exact h ⟨rfl, rfl, rfl⟩)

/-- Whether the snapshots by index are equal. -/
def decideSlotsEq : (as bs : List (Int × List FindingNode)) → Decidable (as = bs)
  | [], [] => isTrue rfl
  | [], _ :: _ => isFalse (by rintro ⟨⟩)
  | _ :: _, [] => isFalse (by rintro ⟨⟩)
  | (i, a) :: as, (j, b) :: bs =>
    if h : i = j then
      match decideListEq a b, decideSlotsEq as bs with
      | isTrue ha, isTrue has => isTrue (by rw [h, ha, has])
      | isFalse ha, _ => isFalse (by rintro ⟨⟩; exact ha rfl)
      | _, isFalse has => isFalse (by rintro ⟨⟩; exact has rfl)
    else isFalse (by rintro ⟨⟩; exact h rfl)

/-- Whether two lists of snapshots are equal. -/
def decideListEq : (as bs : List FindingNode) → Decidable (as = bs)
  | [], [] => isTrue rfl
  | [], _ :: _ => isFalse (by rintro ⟨⟩)
  | _ :: _, [] => isFalse (by rintro ⟨⟩)
  | a :: as, b :: bs =>
    match decideEq a b, decideListEq as bs with
    | isTrue ha, isTrue has => isTrue (by rw [ha, has])
    | isFalse ha, _ => isFalse (by rintro ⟨⟩; exact ha rfl)
    | _, isFalse has => isFalse (by rintro ⟨⟩; exact has rfl)

end

instance : DecidableEq FindingNode := decideEq

mutual

/-- Every value of a snapshot, depth first: the action, the values, and then the children's. -/
def allValues : FindingNode → List DetectedValue
  | node _ action values children => action.toList ++ values.items ++ allValuesOfSlots children

/-- Every value of the snapshots by index, in order. -/
def allValuesOfSlots : List (Int × List FindingNode) → List DetectedValue
  | [] => []
  | (_, children) :: rest => allValuesOf children ++ allValuesOfSlots rest

/-- Every value of snapshots in a row. -/
def allValuesOf : List FindingNode → List DetectedValue
  | [] => []
  | child :: rest => allValues child ++ allValuesOf rest

end

/-- A list of documents for each index, under the numeral of the index. -/
def slotsToJson (slots : Slots Json) : Json :=
  .obj (slots.map fun (i, items) => (toString i, .arr items))

/-- A member of a document, unless there is no index. -/
def slotsMember (name : String) (slots : Slots Json) : List (String × Json) :=
  if slots.isEmpty then [] else [(name, slotsToJson slots)]

mutual

/-- The snapshot in a report; rules appear by their labels. -/
def toJson (label : RuleId → String) : FindingNode → Json
  | node rule action values children =>
    .obj ([("rule", .str (label rule))] ++
      action.toList.map (fun action => ("action", action.toJson)) ++
      slotsMember "values" (values.mapItems DetectedValue.toJson) ++
      slotsMember "children" (childrenToJson label children))

/-- The snapshots by index in a report. -/
def childrenToJson (label : RuleId → String) : List (Int × List FindingNode) → Slots Json
  | [] => []
  | (i, children) :: rest => (i, listToJson label children) :: childrenToJson label rest

/-- Snapshots in a row in a report. -/
def listToJson (label : RuleId → String) : List FindingNode → List Json
  | [] => []
  | child :: rest => toJson label child :: listToJson label rest

end

end FindingNode

/-- A snapshot of a store and of what is at most `height` levels below it. -/
def Arena.projectWithin (arena : Arena) : Nat → StoreId → FindingNode
  | 0, id =>
    let store := (arena.store? id).getD { id, level := 0, rule := 0, root := id }
    .node store.rule store.action store.values []
  | height + 1, id =>
    let store := (arena.store? id).getD { id, level := 0, rule := 0, root := id }
    .node store.rule store.action store.values
      (store.children.mapItems (projectWithin arena height))

/-- A snapshot of a store and of everything below it.  No tree is higher than the number of
stores. -/
def Arena.project (arena : Arena) (id : StoreId) : FindingNode := arena.projectWithin arena.size id

/-- What is reported of a tree of stores. -/
structure Finding where
  filePath : String
  bundle : String
  level : Nat
  /-- The place of the action, or else of the site. -/
  location : Option Location
  root : FindingNode

namespace Finding

/-- Whether two findings say the same. -/
def same (a b : Finding) : Bool := a.root == b.root

/-- The finding for the tree of a store of a unit's scan. -/
def ofStore (catalog : Catalog) (filePath : String) (locationOf : NodeId → Location)
    (arena : Arena) (id : StoreId) : Finding :=
  let store := (arena.store? id).getD { id, level := 0, rule := 0, root := id }
  { filePath
    bundle := catalog.bundle store.rule
    level := store.level
    location :=
      (store.action.map (·.location)).orElse fun _ =>
        store.site.map fun site => locationOf site.node
    root := arena.project id }

/-- The finding in a report. -/
def toJson (catalog : Catalog) (finding : Finding) : Json :=
  .obj [("file_path", .str finding.filePath), ("bundle", .str finding.bundle),
    ("level", .num finding.level), ("location", Json.ofOption Location.toJson finding.location),
    ("root", finding.root.toJson catalog.label)]

/-- Every value of a finding as text, depth first. -/
def displays (finding : Finding) : List String := finding.root.allValues.map DetectedValue.display

/-- The findings without those that say the same as an earlier one. -/
def dedup (findings : List Finding) : List Finding :=
  findings.foldl (fun kept f => if kept.any f.same then kept else kept ++ [f]) []

end Finding

end CryptoUsage
