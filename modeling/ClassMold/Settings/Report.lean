import ClassMold.Document.Printer
import ClassMold.Settings.Violation

/-!
Violations as a JSON document, with the offending values in it. Dots stand for a value inside of itself
and for what is too deep. A value that no JSON text can show makes the report fail.
-/
namespace ClassMold

/-- Why a report or an outline cannot be written. -/
inductive ReportError where
  /-- A text holds a lone surrogate. -/
  | surrogate (error : Utf8.EncodeError)
  /-- Bytes are no text. -/
  | bytes (error : Utf8.DecodeError)
  /-- A key is made of bytes that are no text. -/
  | keyBytes (error : Utf8.DecodeError)
  /-- A key is a whole number that is too long to be written. -/
  | longKey
  /-- A whole number in an outline is too long to be written. -/
  | longNumber
  deriving DecidableEq

/-- The wording of an error. -/
def ReportError.message (e : ReportError) : Text :=
  let onViolations (reason : Text) : Text := "Error serializing ValidationError to JSON: " ++ reason
  match e with
  | surrogate error => onViolations ("UnicodeEncodeError: " ++ error.message)
  | bytes error =>
    match error.flaw with
    | .unexpectedEnd =>
      onViolations ("incomplete utf-8 byte sequence from index " ++ Text.ofNat error.position)
    | _ =>
      onViolations ("invalid utf-8 sequence of " ++ Text.ofNat error.length ++ " bytes from index " ++
        Text.ofNat error.position)
  | keyBytes error => onViolations ("UnicodeDecodeError: " ++ error.messageFor "invalid utf-8")
  | longKey => onViolations ("ValueError: " ++ Decimal.writeMessage)
  | longNumber => Decimal.writeMessage

/-! ### Values -/

/-- What tells a value from others that look the same: the address where it is kept, or its position in a
collection that is kept. A small value is the same wherever it stands and is told by its form. -/
inductive Mark where
  | kept (address : Nat)
  | part (address position : Nat)
  | small (form : Text)
  deriving DecidableEq

/-- The mark of a value at a position of a collection with a mark. -/
def Mark.ofPart? (whole : Option Mark) (position : Nat) : Option Mark :=
  match whole with
  | some (.kept address) => some (.part address position)
  | _ => none

/-- A report in the making. The marks are those of values that were found too deep: dots stand for them
from then on wherever they are met. -/
abbrev Reporting := StateT (List Mark) (Except ReportError)

/-- The number of levels of a value that a report shows. -/
def shownLevels : Nat := 255

/-- What stands for a value that is not shown. -/
def dots : Document := .str "..."

namespace Datum

/-- A text in a report. -/
def reportText (t : Text) : Except ReportError Text :=
  match Utf8.encode t with
  | .ok _ => .ok t
  | .error e => .error (.surrogate e)

/-- Bytes in a report. -/
def reportBytes (b : Bytes) : Except ReportError Text := (Utf8.decode b).mapError .bytes

/-- A key in a report. Keys are scalar. -/
def reportKey : Datum → Except ReportError Text
  | str value => reportText value
  | bool true => .ok "true"
  | bool false => .ok "false"
  | int value => if Decimal.isTooLong value then .error .longKey else .ok (Text.ofInt value)
  | bytes value => (Utf8.decode value).mapError .keyBytes
  | day value => .ok value.text
  | moment value => .ok value.text
  | key => .ok key.form

/-- Whether a value is the same wherever it stands: the values that there are few of, small whole numbers,
and texts and bytes of at most one unit. -/
def isSmall : Datum → Bool
  | null => true
  | bool _ => true
  | int value => -5 ≤ value && value ≤ 256
  | float value => value == .nan
  | str value => value.length ≤ 1 && value.all fun c => c.val < 0x100
  | bytes value => value.length ≤ 1
  | _ => false

/-- The mark of a value, given the one that it has as a part of another value. -/
def mark? (part : Option Mark) : Datum → Option Mark
  | shared address => some (.kept address)
  | value => if value.isSmall then some (.small value.form) else part

/-- Shows a value unless it is around itself or was found too deep before. -/
def unlessHidden (around : List Mark) (mark : Option Mark) (shown : Reporting Document) :
    Reporting Document := do
  let deep ← get
  if mark.any fun mark => around.contains mark || deep.contains mark then return dots else shown

/-- A value in a report, of which some levels are shown, inside of values with some marks. -/
def report (store : Store) : (levels : Nat) → (around : List Mark) → (part : Option Mark) →
    Datum → Reporting Document
  | 0, around, part, value =>
    let mark := value.mark? part
    unlessHidden around mark do
      modify (mark.toList ++ ·)
      return dots
  | levels + 1, around, part, value =>
    let mark := value.mark? part
    let inside (value : Datum) (position : Nat) : Reporting Document :=
      report store levels (mark.toList ++ around) (Mark.ofPart? mark position) value
    let reportItems (items : List Datum) : Reporting Document := do
      return .list (← items.zipIdx.mapM fun (item, position) => inside item position)
    unlessHidden around mark do
      match store.look value with
      | null => return .null
      | bool value => return .bool value
      | int value => return .int value
      | float value => return .float value
      | str value => return .str (← reportText value)
      | bytes value => return .str (← reportBytes value)
      | day value => return .str value.text
      | moment value => return .str value.text
      | list items => reportItems items
      | tuple items => reportItems items
      | set items => reportItems items
      | mapping entries =>
        return .object (← entries.zipIdx.mapM fun ((key, value), position) => do
          let key ← reportKey key
          return (key, ← inside value position))
      | shared _ => return .null

end Datum

/-! ### Violations -/

/-- What a report says about a requirement beside its wording. -/
def Requirement.context : Requirement → List (Text × Document)
  | .version => [("expected", .str ("'" ++ configVersion ++ "'"))]
  | .mapping part => [("class_name", .str part.name)]
  | .satisfying concern => [("error", .str concern.message)]
  | _ => []

/-- A step in a report. -/
def Step.report : Step → Except ReportError Document
  | .name value => (Datum.reportText value).map .str
  | .number value => .ok (.int value)

/-- A violation in a report. -/
def Violation.report (store : Store) (v : Violation) : Reporting Document := do
  let location ← v.location.mapM fun step => (liftM step.report : Reporting Document)
  let message ← Datum.reportText v.requirement.message
  let input ← v.input.report store shownLevels [] none
  let code := v.requirement.code
  let start : List (Text × Document) :=
    [("type", .str code), ("loc", .list location), ("msg", .str message), ("input", input)]
  let context : List (Text × Document) :=
    match v.requirement.context with
    | [] => []
    | context => [("ctx", .object context)]
  let last : Text × Document := ("url", .str ("https://errors.pydantic.dev/2.14/v/" ++ code))
  return .object (start ++ context ++ [last])

/-- The report on a list of violations by values that refer to a store. -/
def Violation.reportAll (store : Store) (violations : List Violation) : Except ReportError Text := do
  let (items, _) ← (violations.mapM (Violation.report store)).run []
  return (Document.list items).pretty Text.literal 0

end ClassMold
