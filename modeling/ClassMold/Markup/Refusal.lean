import ClassMold.Markup.Fault
import ClassMold.Number.Decimal
import ClassMold.Settings.Datum
import ClassMold.Text.Utf8

/-!
Why a markup document is refused. Most reasons are faults with a place; what is wrong with the value of a
number, of an escape or of a date is told without one.
-/
namespace ClassMold
namespace Markup

/-- The parts of a date that have a range. -/
inductive DatePart where
  | year (found : Nat)
  | month
  | day
  | hour
  | minute
  | second
  deriving DecidableEq

/-- The wording for a part out of its range. -/
def DatePart.message : DatePart → Text
  | year found => "year " ++ Text.ofNat found ++ " is out of range"
  | month => "month must be in 1..12"
  | day => "day is out of range for month"
  | hour => "hour must be in 0..23"
  | minute => "minute must be in 0..59"
  | second => "second must be in 0..59"

/-- Why a document is refused. -/
inductive Refusal where
  | fault (fault : Fault)
  /-- A character must not stand in a document. -/
  | unprintable (found : CodePoint) (position : Nat)
  /-- The bytes of the file are no text. -/
  | undecodable (error : Utf8.DecodeError)
  /-- A decimal number has more digits than are converted. -/
  | tooManyDigits (count : Nat)
  /-- An escape names a number beyond the code space. -/
  | noCodePoint
  /-- An escape names a number that does not even fit in 31 bits. -/
  | hugeCodePoint
  | notWhole (base : Nat) (found : Text)
  | notNumber (found : Text)
  | emptyNumber
  /-- A number in base sixty has so many groups that the weight of the highest is no double. -/
  | hugeWeight
  | notTruthValue (found : Text)
  | notTimestamp
  /-- A date is written as a mapping and not as a scalar. -/
  | notText
  /-- A mapping stands for its own content. -/
  | endless
  | outOfRange (part : DatePart)
  /-- An offset from universal time of a day or more, in minutes. -/
  | farOffset (minutes : Int)
  deriving DecidableEq

/-- A fault as a reason. -/
def refuse {α : Type} (fault : Fault) : Except Refusal α := .error (.fault fault)

/-- A span of time as days and seconds. -/
def spanText (minutes : Int) : Text :=
  let seconds := minutes * 60
  let days := seconds.fdiv 86400
  let rest := seconds.fmod 86400
  let parts : List Text :=
    (if days = 0 then [] else ["days=" ++ Text.ofInt days]) ++
      (if rest = 0 then [] else ["seconds=" ++ Text.ofInt rest])
  "datetime.timedelta(" ++ Text.joinWith ", " parts ++ ")"

namespace Refusal

/-- Whether the document itself is malformed, and not a value in it. -/
def isMalformed : Refusal → Bool
  | fault _ => true
  | unprintable .. => true
  | _ => false

/-- The greatest length of a text that is shown as no whole number. -/
def shownLength : Nat := 200

/-- The wording of a reason, for a document of a given name. -/
def message (name : Text) : Refusal → Text
  | fault f => f.message name
  | unprintable found position =>
    "unacceptable character #x" ++ Text.hex 4 found.val ++
      ": special characters are not allowed\n  in \"" ++ name ++ "\", position " ++ Text.ofNat position
  | undecodable error => error.message
  | tooManyDigits count => Decimal.readMessage count
  | noCodePoint => "chr() arg not in range(0x110000)"
  | hugeCodePoint => "Python int too large to convert to C int"
  | notWhole base found =>
    "invalid literal for int() with base " ++ Text.ofNat base ++ ": " ++ found.quoted.take shownLength
  | notNumber found => "could not convert string to float: " ++ found.quoted
  | emptyNumber => "string index out of range"
  | hugeWeight => "int too large to convert to float"
  | notTruthValue found => found.quoted
  | notTimestamp => "'NoneType' object has no attribute 'groupdict'"
  | notText => "expected string or bytes-like object, got 'list'"
  | endless => "maximum recursion depth exceeded"
  | outOfRange part => part.message
  | farOffset minutes =>
    "offset must be a timedelta strictly between -timedelta(hours=24) and timedelta(hours=24), not " ++
      spanText minutes ++ "."

end Refusal
end Markup
end ClassMold
