import ClassMold.Text.CodePoint

/-!
Days and moments of the calendar that has a leap day in every fourth year except in three centuries of
four. A moment with an offset from universal time has an instant, by which such moments are compared.
-/
namespace ClassMold

/-- A day of the calendar. -/
structure Day where
  year : Nat
  month : Nat
  day : Nat
  deriving DecidableEq

/-- A moment of a day. The offset from universal time is in minutes where one is given. -/
structure Moment where
  day : Day
  hour : Nat
  minute : Nat
  second : Nat
  microsecond : Nat
  offset : Option Int
  deriving DecidableEq

/-- Whether a year has a day more. -/
def isLeapYear (year : Nat) : Bool := year % 4 == 0 && (year % 100 != 0 || year % 400 == 0)

/-- The number of days of a month. -/
def daysOfMonth (year month : Nat) : Nat :=
  if month = 2 then (if isLeapYear year then 29 else 28)
  else if [4, 6, 9, 11].contains month then 30
  else 31

/-- The number of minutes of a day. -/
def minutesOfDay : Int := 24 * 60

namespace Day

/-- The number of days of a year before a month. -/
def daysBefore (year : Nat) : (month : Nat) → Nat
  | 0 => 0
  | 1 => 0
  | month + 2 => daysBefore year (month + 1) + daysOfMonth year (month + 1)

/-- The number of a day, counted from the first one of the year one. -/
def number (d : Day) : Nat :=
  let years := d.year - 1
  years * 365 + years / 4 - years / 100 + years / 400 + daysBefore d.year d.month + d.day

/-- A day as year, month and day. -/
def text (d : Day) : Text :=
  Text.padded 4 d.year ++ "-" ++ Text.padded 2 d.month ++ "-" ++ Text.padded 2 d.day

end Day

/-- An offset from universal time, which has a letter of its own. -/
def offsetText : Option Int → Text
  | none => []
  | some 0 => "Z"
  | some minutes =>
    (if minutes < 0 then "-" else "+") ++ Text.padded 2 (minutes.natAbs / 60) ++ ":" ++
      Text.padded 2 (minutes.natAbs % 60)

/-- Microseconds as a fraction of a second, if there are any. -/
def fractionText (microsecond : Nat) : Text :=
  if microsecond = 0 then [] else "." ++ Text.padded 6 microsecond

namespace Moment

/-- The minute of universal time, if the offset from it is known. -/
def universalMinute? (m : Moment) : Option Int :=
  m.offset.map fun offset => m.day.number * minutesOfDay + m.hour * 60 + m.minute - offset

/-- Whether two moments are the same instant. Without an offset only equal moments are, and a moment
without an offset is never one with an offset. -/
def sameInstant (a b : Moment) : Bool :=
  match a.universalMinute?, b.universalMinute? with
  | some x, some y => x == y && a.second == b.second && a.microsecond == b.microsecond
  | none, none => a == b
  | _, _ => false

/-- A moment as day and time. -/
def text (m : Moment) : Text :=
  m.day.text ++ "T" ++ Text.padded 2 m.hour ++ ":" ++ Text.padded 2 m.minute ++ ":" ++
    Text.padded 2 m.second ++ fractionText m.microsecond ++ offsetText m.offset

end Moment
end ClassMold
