import ClassMold.Markup.Node
import ClassMold.Markup.Refusal

/-!
Merging. A mapping may name other mappings whose entries it takes over in front of its own. It is changed by
that for good, so whoever refers to it later sees all entries and none that name mappings.
-/
namespace ClassMold
namespace Markup

/-- A step that changes nodes. -/
abbrev Editing := StateT Graph (Except Refusal)

/-- Takes the first entry that names mappings out of a mapping and gives what that entry names. -/
def takeMerge? (mapping : Nat) : Editing (Option Nat) := do
  let graph ← get
  let entries := (graph.node mapping).entries
  let names (entry : Nat × Nat) : Bool := (graph.node entry.1).tag == mergeTag
  match entries.find? names with
  | none => return none
  | some (_, named) =>
    modify (·.modify mapping fun node => { node with content := .mapping (entries.eraseP names) })
    return some named

/-- The entries that a node gives to the mapping that names it, after the mappings in question are merged
themselves. Of several mappings the last comes first, so that the first one wins. -/
def mergeable (merge : Nat → Editing Unit) (start : Place) (named : Nat) :
    Editing (List (Nat × Nat)) := do
  let node := (← get).node named
  match node.content with
  | .mapping _ =>
    merge named
    return ((← get).node named).entries
  | .sequence items =>
    let parts ← items.mapM fun item => do
      let part := (← get).node item
      match part.content with
      | .mapping _ =>
        merge item
        return ((← get).node item).entries
      | _ => refuse ((Flaw.notMergeableItem part.kind).during .buildingMapping start part.place)
    return parts.reverse.flatten
  | .scalar _ => refuse ((Flaw.notMergeable node.kind).during .buildingMapping start node.place)

/-- The entries that a mapping takes over by its first entries that name mappings. -/
def mergedEntries (merge : Nat → Editing Unit) (mapping : Nat) :
    (count : Nat) → Editing (List (Nat × Nat))
  | 0 => return []
  | count + 1 => do
    match ← takeMerge? mapping with
    | none => return []
    | some named =>
      let start := ((← get).node mapping).place
      let entries ← mergeable merge start named
      let others ← mergedEntries merge mapping count
      return entries ++ others

/-- The nodes after a key that stands for the whole mapping has become one like others. -/
def nameWhole (graph : Graph) (key : Nat) : Graph :=
  graph.modify key fun node =>
    if node.tag = wholeTag then { node with tag := ValueKind.text.tag } else node

/-- Merges into a mapping what it names, through some levels of mappings that name others. -/
def mergeWithin : (levels : Nat) → (mapping : Nat) → Editing Unit
  | 0, _ => return ()
  | levels + 1, mapping => do
    let count := ((← get).node mapping).entries.length
    let merged ← mergedEntries (mergeWithin levels) mapping count
    modify fun graph =>
      let own := (graph.node mapping).entries
      let graph := graph.modify mapping fun node => { node with content := .mapping (merged ++ own) }
      own.foldl (fun graph entry => nameWhole graph entry.1) graph

/-- Merges into a mapping what it names. With each level there is one entry less that names mappings, so
there are no more levels than entries. -/
def merge (mapping : Nat) : Editing Unit := do
  let graph ← get
  mergeWithin (graph.entryCount + 1) mapping

end Markup
end ClassMold
