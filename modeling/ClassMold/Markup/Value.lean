import ClassMold.Markup.Document
import ClassMold.Markup.Node.Merge
import ClassMold.Markup.Value.Binary
import ClassMold.Markup.Value.Number
import ClassMold.Markup.Value.SetOrder
import ClassMold.Markup.Value.Time
import ClassMold.Settings.Store

/-!
The values of a document. A scalar gets its value when it is met. A collection is made empty then and is
filled when its turn comes, in the order in which collections are made: so it may hold itself, and of
several flaws the one nearest to the root counts, and of those on one level the first in the text.
-/
namespace ClassMold
namespace Markup

/-- Values in the making. -/
structure Building where
  graph : Graph
  /-- The values of the nodes, as far as they are made. -/
  values : Array (Option Datum)
  store : Store
  /-- The nodes and the addresses of the collections, in the order in which they were made. -/
  collections : Array (Nat × Nat)

/-- A step that makes values. -/
abbrev Builder := StateT Building (Except Refusal)

/-- A node of the wrong kind for its tag. -/
def wrongKind (wanted : NodeKind) (node : Node) : Refusal :=
  .fault ((Flaw.notOfKind wanted node.kind).at node.place)

namespace Builder

/-- The node with a number. -/
def node (number : Nat) : Builder Node := do return (← get).graph.node number

/-- Keeps a collection and gives the value that refers to it. -/
def keep (collection : Datum) : Builder Datum :=
  modifyGet fun building =>
    let (value, store) := building.store.keep collection
    (value, { building with store })

/-- Merges into a mapping what it names. -/
def merge (mapping : Nat) : Builder Unit := do
  let ((), graph) ← (Markup.merge mapping).run (← get).graph
  modify ({ · with graph })

end Builder

/-! ### Scalars -/

/-- The words that are truth values, in lower case. -/
def truthValues : List (Text × Bool) :=
  [("yes", true), ("no", false), ("true", true), ("false", false), ("on", true), ("off", false)]

/-- The truth value that a scalar stands for. -/
def truthValue (content : Text) : Except Refusal Bool :=
  let word := content.toLower
  match truthValues.find? (·.1 == word) with
  | some (_, value) => .ok value
  | none => .error (.notTruthValue word)

/-- The value of the content of a node with a tag of a scalar kind. -/
def scalarValue (kind : ValueKind) (content : Text) (place : Place) : Except Refusal Datum :=
  match kind with
  | .null => .ok .null
  | .bool => (truthValue content).map .bool
  | .int => (wholeNumber content).map .int
  | .float => (fractionalNumber content).map .float
  | .binary =>
    match binary content with
    | .ok bytes => .ok (.bytes bytes)
    | .error flaw => refuse (flaw.at place)
  | .timestamp => timestamp content
  | _ => .ok (.str content)

/-- The content of a scalar within some steps. A mapping may have a key whose value stands for it. -/
def contentWithin (graph : Graph) : (steps : Nat) → (number : Nat) → Except Refusal Text
  | 0, _ => .error .endless
  | steps + 1, number =>
    let node := graph.node number
    match node.content with
    | .scalar text => .ok text
    | .sequence _ => .error (wrongKind .scalar node)
    | .mapping entries =>
      match entries.find? fun entry => (graph.node entry.1).tag == wholeTag with
      | some (_, value) => contentWithin graph steps value
      | none => .error (wrongKind .scalar node)

/-- The content of a scalar. More steps than there are nodes never come to an end. -/
def contentOf (graph : Graph) (number : Nat) : Except Refusal Text :=
  contentWithin graph (graph.nodes.size + 1) number

/-- The value of a node with a tag of a scalar kind. -/
def buildScalar (graph : Graph) (kind : ValueKind) (number : Nat) : Except Refusal Datum := do
  let node := graph.node number
  let content ← contentOf graph number
  if kind = .timestamp ∧ node.kind ≠ .scalar then .error .notText
  else scalarValue kind content node.place

/-! ### Collections -/

/-- The collection that a kind of value starts from, unless it is a scalar kind. -/
def ValueKind.start? : ValueKind → Option Datum
  | sequence => some (.list [])
  | mapping => some (.mapping [])
  | set => some (.set [])
  | orderedMap => some (.list [])
  | pairs => some (.list [])
  | _ => none

/-- The value of a node that is met. Every node has only one. -/
def build (number : Nat) : Builder Datum := do
  let building ← get
  match building.values.getD number none with
  | some value => return value
  | none =>
    let node := building.graph.node number
    let value ←
      match ValueKind.ofTag? node.tag with
      | none => refuse ((Flaw.unknownTag node.tag).at node.place)
      | some kind =>
        match kind.start? with
        | none => buildScalar building.graph kind number
        | some start =>
          let address := building.store.collections.size
          modify fun building =>
            { building with collections := building.collections.push (number, address) }
          Builder.keep start
    modify fun building =>
      { building with values := building.values.setIfInBounds number (some value) }
    return value

/-- Whether a value may be a key: collections may not. -/
def canBeKey : Datum → Bool
  | .list _ => false
  | .tuple _ => false
  | .set _ => false
  | .mapping _ => false
  | .shared _ => false
  | _ => true

/-- A key of a mapping. What is no number differs even from itself, unless it comes from the same node or
is written by the word for it. -/
structure Key where
  value : Datum
  /-- The node that the key comes from; the word for no number is the same wherever it stands. -/
  origin : Option Nat

/-- Whether two keys are one. -/
def Key.same (a b : Key) : Bool :=
  match a.value, b.value with
  | .float .nan, .float .nan => a.origin == b.origin
  | x, y => x.sameKey y

/-- Sets an entry: the position and the key of an earlier entry with the same key are kept. -/
def setEntry (key : Key) (value : Datum) : List (Key × Datum) → List (Key × Datum)
  | [] => [(key, value)]
  | (k, v) :: rest => if k.same key then (k, value) :: rest else (k, v) :: setEntry key value rest

/-- The key that a node of a mapping stands for. -/
def buildKey (mapping : Place) (number : Nat) : Builder Key := do
  let value ← build number
  let graph := (← get).graph
  if canBeKey value then
    let isWord :=
      match contentOf graph number with
      | .ok content => isNanWord content
      | .error _ => false
    return ⟨value, if isWord then none else some number⟩
  else refuse (Flaw.unhashableKey.during .buildingMapping mapping (graph.node number).place)

/-- The entries of a mapping, each key once. -/
def buildEntries (number : Nat) : Builder (List (Datum × Datum)) := do
  let node ← Builder.node number
  if node.kind ≠ .mapping then throw (wrongKind .mapping node)
  Builder.merge number
  let entries ← (← Builder.node number).entries.mapM fun (key, value) => do
    let key ← buildKey node.place key
    return (key, ← build value)
  let distinct := entries.foldl (fun all entry => setEntry entry.1 entry.2 all) []
  return distinct.map fun entry => (entry.1.value, entry.2)

/-- The items of a sequence. -/
def buildItems (number : Nat) : Builder (List Datum) := do
  let node ← Builder.node number
  match node.content with
  | .sequence items => items.mapM build
  | _ => throw (wrongKind .sequence node)

/-- The pair that an item of a sequence stands for, which is a mapping of one entry. -/
def buildPair (task : Task) (start : Place) (number : Nat) : Builder Datum := do
  let node ← Builder.node number
  match node.content with
  | .mapping [(key, value)] =>
    let key ← build key
    let value ← build value
    Builder.keep (.tuple [key, value])
  | .mapping entries => refuse ((Flaw.notSingle entries.length).during task start node.place)
  | _ => refuse ((Flaw.notPair node.kind).during task start node.place)

/-- The pairs that the items of a sequence stand for. -/
def buildPairs (task : Task) (number : Nat) : Builder (List Datum) := do
  let node ← Builder.node number
  match node.content with
  | .sequence items => items.mapM (buildPair task node.place)
  | _ => refuse ((Flaw.notSequence node.kind).during task node.place node.place)

/-- The collection of a kind that a node stands for. -/
def buildCollection (kind : ValueKind) (number : Nat) : Builder Datum := do
  match kind with
  | .mapping => return .mapping (← buildEntries number)
  | .set => return .set (setOrder ((← buildEntries number).map (·.1)))
  | .orderedMap => return .list (← buildPairs .buildingOrderedMap number)
  | .pairs => return .list (← buildPairs .buildingPairs number)
  | _ => return .list (← buildItems number)

/-- Fills some collections from a position on, in the order in which they were made. -/
def fillFrom : (count : Nat) → (position : Nat) → Builder Unit
  | 0, _ => return ()
  | count + 1, position => do
    match (← get).collections[position]? with
    | none => return ()
    | some (number, address) =>
      let kind := (ValueKind.ofTag? (← Builder.node number).tag).getD .sequence
      let collection ← buildCollection kind number
      modify fun building =>
        { building with store := building.store.replace address collection }
      fillFrom count (position + 1)

/-- The value of a document. No node makes more than one collection. -/
def RootedGraph.value (document : RootedGraph) : Except Refusal Held := do
  let count := document.graph.nodes.size
  let steps : Builder Datum := do
    let value ← build document.root
    fillFrom (count + 1) 0
    return value
  let (value, building) ← steps.run ⟨document.graph, Array.replicate count none, .empty, #[]⟩
  return ⟨value, building.store⟩

/-- The value in the bytes of a markup file; a file without a document has none. -/
def read (content : Bytes) : Except Refusal Held :=
  match RootedGraph.read (.ofBytes content) with
  | .error refusal => .error refusal
  | .ok none => .ok ⟨.null, .empty⟩
  | .ok (some document) => document.value

end Markup
end ClassMold
