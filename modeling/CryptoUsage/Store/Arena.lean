import CryptoUsage.Catalog.Rule
import CryptoUsage.Program.Shape
import CryptoUsage.Store.Slots

/-!
# Detection stores

While rules are followed, what they detect is kept in *stores*: one for each attempt to match a rule
at some place.  Stores form trees; the root of a tree is the attempt to match a root rule at a site,
and its children are the rules followed from there, filed by the index of the argument they were
followed from, or by `methodLevel`.

All stores of a scan stand in one `Arena`, and a store is known by its place there, which it also
says itself (`Store.id`).  A child is always made after its parent, so it stands further back: that
is why the walks down (`hasDetections`) and up (`ancestry`) end.  Stores made last can be thrown
away again by `truncate`.

The links are kept twice over: a child names its parent and its index there, and the parent has the
child in its list for that index.  Nothing in the types makes the two agree, or keeps a list from
being empty or a place from being another store's.
-/

set_option autoImplicit false

namespace CryptoUsage

/-- The place of a store in its arena. -/
abbrev StoreId := Nat

/-- How a store that a hook brought about came to be. -/
structure HookOrigin where
  /-- The node that fired the hook. -/
  trigger : NodeId
  /-- The store under which the hook was first asked for. -/
  hookRoot : StoreId
deriving DecidableEq, Repr

/-- An attempt to match a rule, and what came of it. -/
structure Store where
  /-- Its place in the arena. -/
  id : StoreId
  /-- How many stores are above it. -/
  level : Nat
  rule : RuleId
  /-- Values by argument. -/
  values : Slots DetectedValue := []
  /-- Stores of rules that were followed, by argument. -/
  children : Slots StoreId := []
  /-- The action of the matched call. -/
  action : Option DetectedValue := none
  /-- The site that matched. -/
  site : Option Site := none
  /-- The store above it, and the index under which it is filed there. -/
  parent : Option (StoreId × Int) := none
  /-- The topmost store above it. -/
  root : StoreId
  hook : Option HookOrigin := none
deriving DecidableEq, Repr

/-- Whether the store itself holds a value or an action. -/
def Store.isDetection (store : Store) : Bool := store.action.isSome || store.values.hasItems

/-- All the stores of a scan. -/
structure Arena where
  stores : Array Store := #[]
deriving DecidableEq, Repr

namespace Arena

variable (arena : Arena)

/-- The number of stores. -/
def size : Nat := arena.stores.size

/-- The store at a place. -/
def store? (id : StoreId) : Option Store := arena.stores[id]?

/-- The arena with the store at a place changed. -/
def modify (id : StoreId) (change : Store → Store) : Arena :=
  { stores := arena.stores.modify id change }

/-- The arena with one more store, made for the place it gets, and the place. -/
def push (make : StoreId → Store) : Arena × StoreId :=
  ({ stores := arena.stores.push (make arena.size) }, arena.size)

/-- A new root for a rule. -/
def createRoot (rule : RuleId) : Arena × StoreId :=
  arena.push fun id => { id, level := 0, rule, root := id }

/-- A new store for a rule, filed under an index of its parent. -/
def createChild (parent : StoreId) (index : Int) (rule : RuleId) (hook : Option HookOrigin) :
    Arena × StoreId :=
  let above := arena.store? parent
  let (grown, id) := arena.push fun id =>
    { id
      level := ((above.map (·.level)).getD 0) + 1
      rule
      parent := some (parent, index)
      root := (above.map (·.root)).getD id
      hook }
  (grown.modify parent fun store => { store with children := store.children.push index id }, id)

/-- A store for the same rule in the same place of the tree. -/
def createSibling (store : Store) : Arena × StoreId :=
  match store.parent with
  | some (parent, index) => arena.createChild parent index store.rule store.hook
  | none => arena.createRoot store.rule

/-- Give a site to a store.  A store that has another site already keeps it, and the new one goes to
a sibling made for it. -/
def claim (id : StoreId) (site : Site) : Arena × StoreId :=
  match arena.store? id with
  | none => (arena, id)
  | some store =>
    let (grown, target) :=
      if store.site.all (· == site) then (arena, id) else arena.createSibling store
    (grown.modify target fun store => { store with site := some site }, target)

/-- The first `steps` stores on the way from a store to its root, itself first. -/
def ancestryWithin : Nat → StoreId → List StoreId
  | 0, _ => []
  | steps + 1, id =>
    match arena.store? id with
    | none => []
    | some store =>
      id :: match store.parent with
        | some (parent, _) => ancestryWithin steps parent
        | none => []

/-- The stores on the way from a store to its root, itself first.  Parents stand further front, so
there are at most as many as places up to its own. -/
def ancestry (id : StoreId) : List StoreId := arena.ancestryWithin (id + 1) id

/-- Whether a store has the given rule and site. -/
def hasClaimed (rule : RuleId) (site : Site) (id : StoreId) : Bool :=
  (arena.store? id).any fun store => store.rule == rule && store.site == some site

/-- Whether a store or one above it has the given rule and site. -/
def isClaimedOnPath (id : StoreId) (rule : RuleId) (site : Site) : Bool :=
  (arena.ancestry id).any (arena.hasClaimed rule site)

/-- The store under which the nearest hook above a store, or its own, was first asked for; the store
itself if it owes nothing to a hook. -/
def hookRoot (id : StoreId) : StoreId :=
  ((arena.ancestry id).findSome? fun above =>
    ((arena.store? above).bind (·.hook)).map (·.hookRoot)).getD id

/-- Note that the rule of a store matched a site, with the action that makes. -/
def receiveMethod (id : StoreId) (site : Site) (action : Option DetectedValue) : Arena :=
  arena.modify id fun store =>
    { store with site := some site, action := action.orElse fun _ => store.action }

/-- File a value under an index, unless it is there already. -/
def pushValue (id : StoreId) (index : Int) (value : DetectedValue) : Arena :=
  arena.modify id fun store => { store with values := store.values.pushNew index value }

/-- File a value under an index, or, if it is to be moved, in a new child.  The second component is
the store it went to. -/
def receiveValue (id : StoreId) (index : Int) (moveUnder : Option Int) (value : DetectedValue) :
    Arena × StoreId :=
  match moveUnder with
  | none => (arena.pushValue id index value, id)
  | some target =>
    match arena.store? id with
    | none => (arena, id)
    | some store =>
      let (grown, moved) := arena.createChild id target store.rule none
      (grown.pushValue moved index value, moved)

/-- Whether a store, or one at most `height` levels below it, holds a value or an action. -/
def hasDetectionsWithin : Nat → StoreId → Bool
  | 0, id => (arena.store? id).any Store.isDetection
  | height + 1, id =>
    (arena.store? id).any fun store =>
      store.isDetection || store.children.items.any (hasDetectionsWithin height)

/-- Whether a store or one below it holds a value or an action.  No tree is higher than the number
of stores. -/
def hasDetections (id : StoreId) : Bool := arena.hasDetectionsWithin arena.size id

/-- The arena without the stores from the given place on.  The stores that stay lose their children
among these, and the lists that held nothing else. -/
def truncate (mark : Nat) : Arena :=
  if arena.size ≤ mark then arena
  else
    { stores := (arena.stores.take mark).map fun store =>
        { store with children := store.children.retain fun child => child < mark } }

end Arena

end CryptoUsage
