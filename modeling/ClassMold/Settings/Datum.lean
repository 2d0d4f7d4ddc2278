import ClassMold.Calendar
import ClassMold.Number.Shortest
import ClassMold.Sample
import ClassMold.Text.Quoted
import ClassMold.Text.Utf8

/-!
The values that a configuration file can hold. Files in markup know more kinds than JSON does: dates,
bytes, sets and pairs, mappings with keys of any kind, and collections that stand at several places or
even inside of themselves.
-/
namespace ClassMold

/-- A value of a configuration file. -/
inductive Datum where
  | null
  | bool (value : Bool)
  | int (value : Int)
  | float (value : Binary64)
  | str (value : Text)
  | bytes (value : Bytes)
  | day (value : Day)
  | moment (value : Moment)
  | list (items : List Datum)
  | tuple (items : List Datum)
  | set (items : List Datum)
  | mapping (entries : List (Datum × Datum))
  /-- A collection that is kept in a store, by its address there. -/
  | shared (address : Nat)

namespace Datum

instance : Inhabited Datum := ⟨null⟩

mutual

/-- The value that a sample document holds. No document read from a text holds a foreign value. -/
def ofSample : Sample → Datum
  | .null => null
  | .bool value => bool value
  | .int value => int value
  | .float value => float value
  | .str value => str value
  | .list items => list (ofItems items)
  | .object members => mapping (ofMembers members)
  | .foreign _ => null

/-- The values of the items of a list. -/
def ofItems : List Sample → List Datum
  | [] => []
  | item :: rest => ofSample item :: ofItems rest

/-- The entries for the members of an object. -/
def ofMembers : List (Text × Sample) → List (Datum × Datum)
  | [] => []
  | (key, value) :: rest => (str key, ofSample value) :: ofMembers rest

end

/-- Whether two keys of a mapping are one. A truth value is the number one or zero, and numbers are
compared by value, moments by their instants. Keys that are not scalar are never compared. -/
def sameKey : Datum → Datum → Bool
  | null, null => true
  | str a, str b => a == b
  | bytes a, bytes b => a == b
  | day a, day b => a == b
  | moment a, moment b => a.sameInstant b
  | float a, float b => a.sameValue b
  | float a, int b => a.equalsInt b
  | int a, float b => b.equalsInt a
  | float a, bool b => a.equalsInt b.toInt
  | bool a, float b => b.equalsInt a.toInt
  | int a, int b => a == b
  | int a, bool b => a == b.toInt
  | bool a, int b => b == a.toInt
  | bool a, bool b => a == b
  | _, _ => false

/-- Sets an entry: the position and the key of an earlier entry with the same key are kept. -/
def setEntry (key value : Datum) : List (Datum × Datum) → List (Datum × Datum)
  | [] => [(key, value)]
  | (k, v) :: rest => if k.sameKey key then (k, value) :: rest else (k, v) :: setEntry key value rest

/-- The value of the entry with a text as its key. -/
def entry? (name : Text) (entries : List (Datum × Datum)) : Option Datum :=
  (entries.find? fun entry => entry.1.sameKey (str name)).map (·.2)

/-- One byte in a message, between some quotes. -/
def byteForm (quote b : UInt8) : Text :=
  let n := b.toNat
  if b = quote ∨ n = 0x5C then [.scalar '\\', .ofNat n]
  else if n = 0x0A then "\\n"
  else if n = 0x0D then "\\r"
  else if n = 0x09 then "\\t"
  else if 0x20 ≤ n ∧ n < 0x7F then [.ofNat n]
  else "\\x" ++ Text.hex 2 n

/-- Bytes in a message: between double quotes if only single ones are among them. -/
def bytesForm (value : Bytes) : Text :=
  let quote : UInt8 := if value.contains 0x27 && !value.contains 0x22 then 0x22 else 0x27
  let mark : Text := [.ofNat quote.toNat]
  "b" ++ mark ++ value.flatMap (byteForm quote) ++ mark

/-- Numbers with commas between them. -/
def arguments (numbers : List Nat) : Text := Text.joinWith ", " (numbers.map Text.ofNat)

/-- The arguments that a moment is made from. A second or a fraction of zero is left out. -/
def momentArguments (m : Moment) : List Nat :=
  [m.day.year, m.day.month, m.day.day, m.hour, m.minute] ++
    (if m.microsecond ≠ 0 then [m.second, m.microsecond]
    else if m.second ≠ 0 then [m.second]
    else [])

/-- An offset from universal time in a message. -/
def zoneForm : Option Int → Text
  | none => []
  | some 0 => ", tzinfo=datetime.timezone.utc"
  | some minutes =>
    let seconds := minutes * 60
    let days := seconds.fdiv 86400
    let whole : Text := if days = 0 then [] else "days=" ++ Text.ofInt days ++ ", "
    ", tzinfo=datetime.timezone(datetime.timedelta(" ++ whole ++
      "seconds=" ++ Text.ofInt (seconds.fmod 86400) ++ "))"

/-- A key as a message shows it. Keys are scalar, so the parts of other values are not shown. -/
def form : Datum → Text
  | null => "None"
  | bool true => "True"
  | bool false => "False"
  | int value => Text.ofInt value
  | float value => value.render .message
  | str value => value.quoted
  | bytes value => bytesForm value
  | day value => "datetime.date(" ++ arguments [value.year, value.month, value.day] ++ ")"
  | moment value =>
    "datetime.datetime(" ++ arguments (momentArguments value) ++ zoneForm value.offset ++ ")"
  | list _ => "[...]"
  | tuple _ => "(...)"
  | set _ => "set(...)"
  | mapping _ => "\x7b...\x7d"
  | shared _ => "..."

/-- What messages call the kind of a value. -/
def kindName : Datum → Text
  | null => "NoneType"
  | bool _ => "bool"
  | int _ => "int"
  | float _ => "float"
  | str _ => "str"
  | bytes _ => "bytes"
  | day _ => "datetime.date"
  | moment _ => "datetime.datetime"
  | list _ => "list"
  | tuple _ => "tuple"
  | set _ => "set"
  | mapping _ => "dict"
  | shared _ => "object"

end Datum
end ClassMold
