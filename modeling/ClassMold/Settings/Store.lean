import ClassMold.Settings.Datum

/-!
Collections that may stand at several places. A store keeps them by address and values refer to them, so
that a value can be told from another one that looks the same, and can even stand inside of itself.
-/
namespace ClassMold

/-- Collections by their addresses. -/
structure Store where
  collections : Array Datum

namespace Store

/-- A store that keeps nothing. -/
def empty : Store := ⟨#[]⟩

/-- What a value is. A collection that is kept is looked up; any other value is what it is. -/
def look (store : Store) : Datum → Datum
  | .shared address => store.collections.getD address .null
  | value => value

/-- Keeps one more collection and gives the value that refers to it. -/
def keep (store : Store) (collection : Datum) : Datum × Store :=
  (.shared store.collections.size, ⟨store.collections.push collection⟩)

/-- Replaces the collection at an address. -/
def replace (store : Store) (address : Nat) (collection : Datum) : Store :=
  ⟨store.collections.setIfInBounds address collection⟩

mutual

/-- Keeps a value with the lists and mappings inside of it. -/
def keepAll (store : Store) : Datum → Datum × Store
  | .list items =>
    let (items, store) := keepItems store items
    store.keep (.list items)
  | .mapping entries =>
    let (entries, store) := keepEntries store entries
    store.keep (.mapping entries)
  | value => (value, store)

/-- Keeps the items of a list. -/
def keepItems (store : Store) : List Datum → List Datum × Store
  | [] => ([], store)
  | item :: rest =>
    let (item, store) := keepAll store item
    let (rest, store) := keepItems store rest
    (item :: rest, store)

/-- Keeps the values of the entries of a mapping. -/
def keepEntries (store : Store) : List (Datum × Datum) → List (Datum × Datum) × Store
  | [] => ([], store)
  | (key, value) :: rest =>
    let (value, store) := keepAll store value
    let (rest, store) := keepEntries store rest
    ((key, value) :: rest, store)

end

end Store

/-- A value with the collections that it refers to. -/
structure Held where
  value : Datum
  store : Store

/-- A value whose lists and mappings are told apart by where they stand. -/
def Held.ofDatum (value : Datum) : Held :=
  let (value, store) := Store.empty.keepAll value
  ⟨value, store⟩

end ClassMold
