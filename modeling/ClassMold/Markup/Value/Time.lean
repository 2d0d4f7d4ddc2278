import ClassMold.Markup.Refusal

/-!
Days and moments from scalars. A moment has a day, a time and perhaps an offset from universal time.
-/
namespace ClassMold
namespace Markup

/-- The number of digits at the start of a text between two bounds, as a number, and the rest. -/
def takeNumber? (least most : Nat) (t : Text) : Option (Nat × Text) :=
  let digits := (t.take most).takeWhile CodePoint.isAsciiDigit
  if digits.length < least then none
  else some (Text.readDigits 10 (digits.filterMap (·.digit? 10)), t.drop digits.length)

/-- The rest of a text after a character. -/
def takeChar? (c : Char) : Text → Option Text
  | [] => none
  | first :: rest => if first = .scalar c then some rest else none

/-- A number after a character. -/
def takeMarked? (c : Char) (least most : Nat) (t : Text) : Option (Nat × Text) := do
  let rest ← takeChar? c t
  takeNumber? least most rest

/-- What stands between a day and a time: a letter, or spaces and tabs. -/
def takeTimeMark? : Text → Option Text
  | [] => none
  | first :: rest =>
    if first = .scalar 'T' ∨ first = .scalar 't' then some rest
    else if isGap first then some (rest.dropWhile isGap)
    else none

/-- A day as written, and the rest. -/
def takeDay? (t : Text) : Option (Day × Text) := do
  let (year, t) ← takeNumber? 4 4 t
  let (month, t) ← takeMarked? '-' 1 2 t
  let (day, t) ← takeMarked? '-' 1 2 t
  return (⟨year, month, day⟩, t)

/-- The first six digits of a fraction of a second, and the rest. -/
def takeFraction (t : Text) : Nat × Text :=
  match takeChar? '.' t with
  | none => (0, t)
  | some rest =>
    let digits := (rest.takeWhile CodePoint.isAsciiDigit).filterMap (·.digit? 10)
    let shown := digits.take 6
    (Text.readDigits 10 shown * Nat.pow 10 (6 - shown.length), rest.drop digits.length)

/-- An offset with its sign, in minutes, and the rest. -/
def takeOffset? (t : Text) : Option (Int × Text) := do
  let (negative, t) ←
    match t with
    | .scalar '-' :: rest => some (true, rest)
    | .scalar '+' :: rest => some (false, rest)
    | _ => none
  let (hours, t) ← takeNumber? 1 2 t
  let (minutes, t) := (takeMarked? ':' 2 2 t).getD (0, t)
  let size := Int.ofNat (hours * 60 + minutes)
  return (if negative then -size else size, t)

/-- A zone after spaces and tabs, if one follows, and the rest. -/
def takeZone (t : Text) : Option Int × Text :=
  let start := t.dropWhile isGap
  match takeChar? 'Z' start with
  | some rest => (some 0, rest)
  | none =>
    match takeOffset? start with
    | some (minutes, rest) => (some minutes, rest)
    | none => (none, t)

/-- A day or a moment as written, before its parts are checked. -/
inductive Written where
  | day (day : Day)
  | moment (moment : Moment)

/-- The day or the moment that a text writes. A line feed at its end does not count. -/
def readWritten? (t : Text) : Option Written := do
  let isEnd (t : Text) : Bool := t = [] || t = "\n"
  let (day, t) ← takeDay? t
  if isEnd t then return .day day
  let t ← takeTimeMark? t
  let (hour, t) ← takeNumber? 1 2 t
  let (minute, t) ← takeMarked? ':' 2 2 t
  let (second, t) ← takeMarked? ':' 2 2 t
  let (microsecond, t) := takeFraction t
  let (offset, t) := takeZone t
  if isEnd t then return .moment ⟨day, hour, minute, second, microsecond, offset⟩
  none

/-- Checks the parts of a day. -/
def checkDay (d : Day) : Except Refusal Unit :=
  if d.year = 0 then .error (.outOfRange (.year d.year))
  else if d.month = 0 ∨ d.month > 12 then .error (.outOfRange .month)
  else if d.day = 0 ∨ d.day > daysOfMonth d.year d.month then .error (.outOfRange .day)
  else .ok ()

/-- Checks the parts of a moment, its offset first. -/
def checkMoment (m : Moment) : Except Refusal Unit := do
  match m.offset with
  | none => .ok ()
  | some minutes =>
    if minutes ≤ -minutesOfDay ∨ minutes ≥ minutesOfDay then .error (.farOffset minutes) else .ok ()
  checkDay m.day
  if m.hour > 23 then .error (.outOfRange .hour)
  else if m.minute > 59 then .error (.outOfRange .minute)
  else if m.second > 59 then .error (.outOfRange .second)
  else .ok ()

/-- The day or the moment that a scalar stands for. -/
def timestamp (content : Text) : Except Refusal Datum :=
  match readWritten? content with
  | none => .error .notTimestamp
  | some (.day day) => (checkDay day).map fun () => .day day
  | some (.moment moment) => (checkMoment moment).map fun () => .moment moment

end Markup
end ClassMold
