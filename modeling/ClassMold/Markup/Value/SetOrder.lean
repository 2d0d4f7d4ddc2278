import ClassMold.Settings.Datum

/-!
The order in which a set lists its members. A set of numbers is a table of places: each member stands at
the place that its number names, or at the next free one that a fixed walk finds, and the table is listed
from its first place on. Numbers of equal value name the same place.
-/
namespace ClassMold
namespace Markup

/-- The prime number that the place numbers of members are reduced by. -/
def placePrime : Nat := Binary64.twoTo 61 - 1

/-- The place number of a fraction over a power of two. Halving is done with the number whose double is
one more than the prime, so the place number of a whole number is its remainder, with its sign. -/
def fractionNumber (numerator : Int) (denominator : Nat) : Int :=
  let halvings := denominator.log2 % 61
  let reduced := numerator.natAbs * Binary64.twoTo ((61 - halvings) % 61) % placePrime
  let signed : Int := if numerator < 0 then -Int.ofNat reduced else Int.ofNat reduced
  if signed = -1 then -2 else signed

/-- The place number of a member, if it is a number. -/
def placeNumber? : Datum → Option Int
  | .bool b => some b.toInt
  | .int n => some (fractionNumber n 1)
  | .float x =>
    match x with
    | .infinite negative => some (if negative then -314159 else 314159)
    | x => x.toFraction?.map fun (numerator, denominator) => fractionNumber numerator denominator
  | _ => none

/-- The number of places in the table of a set with a number of members: eight for up to four members,
else the least power of two above twice their number. -/
def placeCount (members : Nat) : Nat :=
  if members ≤ 4 then 8 else Binary64.twoTo ((2 * members).log2 + 1)

/-- The number of places after a named one that are tried in turn. -/
def neighbors : Nat := 9

/-- The first free place of those that a walk tries. The walk goes on to a place that depends on what is
left of the place number, of which five bits are dropped each time. -/
def freePlace (table : Array (Option Datum)) : (tries : Nat) → (place rest : Nat) → Nat
  | 0, place, _ => place
  | tries + 1, place, rest =>
    let count := if place + neighbors < table.size then neighbors + 1 else 1
    match (List.range' place count).find? fun candidate => (table.getD candidate none).isNone with
    | some free => free
    | none =>
      let rest := rest / 32
      freePlace table tries ((place * 5 + 1 + rest) % table.size) rest

/-- The table with one more member. A place number below zero counts from the end of the words. -/
def putMember (table : Array (Option Datum)) (member : Datum × Int) : Array (Option Datum) :=
  let rest := (member.2 % Int.ofNat (Binary64.twoTo 64)).toNat
  let free := freePlace table (table.size + 16) (rest % table.size) rest
  table.setIfInBounds free (some member.1)

/-- The members of a set in the order in which it lists them. What is no number has no place of its own,
so a set with such a member lists its members as they were entered. -/
def setOrder (members : List Datum) : List Datum :=
  match members.mapM fun member => (placeNumber? member).map fun number => (member, number) with
  | none => members
  | some numbered =>
    let table := numbered.foldl putMember (Array.replicate (placeCount members.length) none)
    table.toList.filterMap id

end Markup
end ClassMold
