import ClassMold.Number.Decimal
import ClassMold.Sample
import ClassMold.Text.Category

/-!
Sample documents from JSON text. A number with a fraction or an exponent is a float and any other an
integer of whatever size, short of a limit on its digits. Of several members with one key the position
of the first and the value of the last count. Each reading step gives back the rest of the text with a
proof that it is shorter, so the reader ends on every input.
-/
namespace ClassMold

namespace Sample

/-- What is wrong with a text. -/
inductive Fault where
  | expectingValue
  | expectingName
  | expectingColon
  | expectingComma
  | extraData
  | unterminatedString
  | controlCharacter
  | invalidEscape
  | invalidUnicodeEscape
  | byteOrderMark
  deriving DecidableEq

/-- The wording of a fault, without its place. -/
def Fault.message : Fault → Text
  | expectingValue => "Expecting value"
  | expectingName => "Expecting property name enclosed in double quotes"
  | expectingColon => "Expecting ':' delimiter"
  | expectingComma => "Expecting ',' delimiter"
  | extraData => "Extra data"
  | unterminatedString => "Unterminated string starting at"
  | controlCharacter => "Invalid control character at"
  | invalidEscape => "Invalid \\escape"
  | invalidUnicodeEscape => "Invalid \\uXXXX escape"
  | byteOrderMark => "Unexpected UTF-8 BOM (decode using utf-8-sig)"

/-- Why a text cannot be read. -/
inductive ReadError where
  /-- The text is no JSON; the offset counts code points from its start. -/
  | malformed (fault : Fault) (offset line column : Nat)
  /-- An integer has more digits than are converted. -/
  | tooManyDigits (count : Nat)
  deriving DecidableEq

/-- The wording of an error. -/
def ReadError.message : ReadError → Text
  | malformed fault offset line column =>
    fault.message ++ ": line " ++ Text.ofNat line ++ " column " ++ Text.ofNat column ++ " (char " ++
      Text.ofNat offset ++ ")"
  | tooManyDigits count => Decimal.readMessage count

/-- Where and why reading stops. A place is given by the text that is left from there on. -/
inductive Stop where
  | fault (fault : Fault) (left : Text)
  | tooManyDigits (count : Nat)

/-- The error for a stop, with the place counted from the start of the whole text. -/
def Stop.toError (whole : Text) : Stop → ReadError
  | .tooManyDigits count => .tooManyDigits count
  | .fault reason left =>
    let before := whole.take (whole.length - left.length)
    let lastLine := (before.reverse.takeWhile (· ≠ .scalar '\n')).length
    .malformed reason before.length (before.count (.scalar '\n') + 1) (lastLine + 1)

/-- What a step leaves of a text, with the proof that it has taken something. -/
abbrev Rest (t : Text) := { left : Text // left.length < t.length }

/-- Adds code points in front of a text that has been taken. -/
def Rest.weaken {t u : Text} (le : t.length ≤ u.length) (left : Rest t) : Rest u :=
  ⟨left.1, Nat.lt_of_lt_of_le left.2 le⟩

/-- What a step leaves that takes one code point. -/
def Rest.past (c : CodePoint) (left : Text) : Rest (c :: left) := ⟨left, Nat.lt_succ_self _⟩

/-- Adds one code point in front of a text that has been taken. -/
def Rest.behind {t : Text} (c : CodePoint) (left : Rest t) : Rest (c :: t) :=
  left.weaken (Nat.le_succ _)

/-- What two steps leave. -/
def Rest.after {t : Text} (first : Rest t) (second : Rest first.1) : Rest t :=
  second.weaken (Nat.le_of_lt first.2)

/-- The white space that may stand between tokens. -/
def isSeparator : CodePoint → Bool
  | .scalar ' ' => true
  | .scalar '\t' => true
  | .scalar '\n' => true
  | .scalar '\r' => true
  | _ => false

/-- A text from its first token on. -/
def skip (t : Text) : Text := t.dropWhile isSeparator

theorem skip_length_le (t : Text) : (skip t).length ≤ t.length :=
  (List.dropWhile_sublist isSeparator).length_le

/-! ### Strings -/

/-- The code point that a backslash and one letter stand for. -/
def shortEscape? : CodePoint → Option CodePoint
  | .scalar '"' => some (.scalar '"')
  | .scalar '\\' => some (.scalar '\\')
  | .scalar '/' => some (.scalar '/')
  | .scalar 'b' => some (.scalar '\x08')
  | .scalar 'f' => some (.scalar '\x0c')
  | .scalar 'n' => some (.scalar '\n')
  | .scalar 'r' => some (.scalar '\r')
  | .scalar 't' => some (.scalar '\t')
  | _ => none

/-- The number that four hexadecimal digits write. -/
def unit? (a b c d : CodePoint) : Option Nat := do
  let a ← a.digit? 16
  let b ← b.digit? 16
  let c ← c.digit? 16
  let d ← d.digit? 16
  return Text.readDigits 16 [a, b, c, d]

/-- The first half of a surrogate pair. -/
def isHighSurrogate (unit : Nat) : Bool := 0xD800 ≤ unit && unit < 0xDC00

/-- The second half of a surrogate pair. -/
def isLowSurrogate (unit : Nat) : Bool := 0xDC00 ≤ unit && unit < 0xE000

/-- The code point that a surrogate pair writes. -/
def joinSurrogates (high low : Nat) : CodePoint :=
  .ofNat (0x10000 + (high - 0xD800) * 0x400 + (low - 0xDC00))

/-- What follows a first half: the code point of the pair and the rest, if a second half is written
next. A numeric escape that is not one may follow too, but it has to be well formed. -/
def secondHalf? (high : Nat) (t : Text) : Except Stop (Option (CodePoint × Rest t)) :=
  match t with
  | .scalar '\\' :: .scalar 'u' :: a :: b :: c :: d :: next :: left =>
    match unit? a b c d with
    | none => .error (.fault .invalidUnicodeEscape (.scalar 'u' :: a :: b :: c :: d :: next :: left))
    | some low =>
      if isLowSurrogate low then
        .ok (some (joinSurrogates high low, ⟨next :: left, by simp⟩))
      else .ok none
  | _ => .ok none

/-- The code point of a numeric escape whose `u` is the first of the text. The escape cannot be the
end of the text, since a quote has to follow. -/
def readUnicodeEscape (t : Text) : Except Stop (CodePoint × Rest t) :=
  match t with
  | _ :: a :: b :: c :: d :: next :: left =>
    match unit? a b c d with
    | none => .error (.fault .invalidUnicodeEscape t)
    | some unit =>
      if isHighSurrogate unit then
        match secondHalf? unit (next :: left) with
        | .error stop => .error stop
        | .ok (some (c, rest)) => .ok (c, rest.weaken (by simp))
        | .ok none => .ok (.ofNat unit, ⟨next :: left, by simp⟩)
      else .ok (.ofNat unit, ⟨next :: left, by simp⟩)
  | _ => .error (.fault .invalidUnicodeEscape t)

/-- A string whose opening quote has been passed. The text from that quote on is kept for the error of
a string without an end. -/
def readString (opening : Text) (t : Text) : Except Stop (Text × Rest t) :=
  match t with
  | [] => .error (.fault .unterminatedString opening)
  | .scalar '"' :: left => .ok ([], .past _ left)
  | .scalar '\\' :: [] => .error (.fault .unterminatedString opening)
  | .scalar '\\' :: .scalar 'u' :: left =>
    match readUnicodeEscape (.scalar 'u' :: left) with
    | .error stop => .error stop
    | .ok (c, rest) =>
      match readString opening rest.1 with
      | .error stop => .error stop
      | .ok (value, last) => .ok (c :: value, (rest.after last).behind _)
  | .scalar '\\' :: e :: left =>
    match shortEscape? e with
    | none => .error (.fault .invalidEscape (.scalar '\\' :: e :: left))
    | some c =>
      match readString opening left with
      | .error stop => .error stop
      | .ok (value, last) => .ok (c :: value, (last.behind e).behind _)
  | c :: left =>
    if c.val < 0x20 then .error (.fault .controlCharacter (c :: left))
    else
      match readString opening left with
      | .error stop => .error stop
      | .ok (value, last) => .ok (c :: value, last.behind c)
termination_by t.length
decreasing_by
  · have := rest.2; simp only [List.length_cons] at this ⊢; omega
  all_goals simp only [List.length_cons]; omega

/-! ### Numbers -/

/-- The values of the digits at the start of a text. -/
def leadingDigits (t : Text) : List Nat :=
  (t.takeWhile CodePoint.isAsciiDigit).filterMap (·.digit? 10)

/-- A text without the digits at its start. -/
def afterDigits (t : Text) : Text := t.dropWhile CodePoint.isAsciiDigit

theorem afterDigits_length_le (t : Text) : (afterDigits t).length ≤ t.length :=
  (List.dropWhile_sublist CodePoint.isAsciiDigit).length_le

/-- The digits before the point and the rest. A number that starts with zero has no other digit there. -/
def wholePart? : Text → Option (List Nat × Text)
  | .scalar '0' :: left => some ([0], left)
  | t =>
    match leadingDigits t with
    | [] => none
    | digits => some (digits, afterDigits t)

/-- The digits after a point and the rest, if the text goes on with a point and a digit. -/
def fraction? : Text → Option (List Nat × Text)
  | .scalar '.' :: left =>
    match leadingDigits left with
    | [] => none
    | digits => some (digits, afterDigits left)
  | _ => none

/-- The sign of an exponent and the rest. -/
def exponentSign : Text → Bool × Text
  | .scalar '-' :: left => (true, left)
  | .scalar '+' :: left => (false, left)
  | t => (false, t)

/-- The exponent and the rest, if the text goes on with a complete exponent. -/
def exponent? : Text → Option (Int × Text)
  | .scalar e :: left =>
    if e = 'e' ∨ e = 'E' then
      let (negative, left) := exponentSign left
      match leadingDigits left with
      | [] => none
      | digits =>
        let size := Int.ofNat (Text.readDigits 10 digits)
        some (if negative then -size else size, afterDigits left)
    else none
  | _ => none

/-- The digits after a point, the rest, and whether there is such a part at all. -/
def splitFraction (t : Text) : List Nat × Text × Bool :=
  match fraction? t with
  | some (digits, left) => (digits, left, true)
  | none => ([], t, false)

/-- The exponent, the rest, and whether there is such a part at all. -/
def splitExponent (t : Text) : Int × Text × Bool :=
  match exponent? t with
  | some (exponent, left) => (exponent, left, true)
  | none => (0, t, false)

/-- The integer that digits write, if they are not too many. -/
def wholeNumber (negative : Bool) (digits : List Nat) : Except Stop Sample :=
  if digits.length > Decimal.digitLimit then .error (.tooManyDigits digits.length)
  else
    let size := Int.ofNat (Text.readDigits 10 digits)
    .ok (.int (if negative then -size else size))

/-- A number without its sign, and the rest. -/
def readMagnitude (negative : Bool) (t : Text) : Option (Except Stop Sample × Text) :=
  match wholePart? t with
  | none => none
  | some (whole, left) =>
    let (fraction, left, hasFraction) := splitFraction left
    let (exponent, left, hasExponent) := splitExponent left
    if hasFraction || hasExponent then
      some (.ok (.float (Binary64.ofDecimal negative (Text.readDigits 10 (whole ++ fraction))
        (exponent - fraction.length))), left)
    else some (wholeNumber negative whole, left)

/-- A number and the rest. -/
def readNumber (t : Text) : Option (Except Stop Sample × Text) :=
  match t with
  | .scalar '-' :: left => readMagnitude true left
  | _ => readMagnitude false t

theorem afterDigits_length_lt {t : Text} (digits : leadingDigits t ≠ []) :
    (afterDigits t).length < t.length := by
  cases t with
  | nil => simp [leadingDigits] at digits
  | cons c rest =>
    by_cases isDigit : c.isAsciiDigit
    · have := afterDigits_length_le rest
      simp only [afterDigits, List.dropWhile_cons, isDigit, if_true, List.length_cons] at this ⊢
      omega
    · simp [leadingDigits, isDigit] at digits

theorem wholePart?_length_lt {t left : Text} {digits : List Nat}
    (taken : wholePart? t = some (digits, left)) : left.length < t.length := by
  unfold wholePart? at taken
  split at taken
  · simp only [Option.some.injEq, Prod.mk.injEq] at taken
    simp [← taken.2]
  · split at taken
    · simp at taken
    · next found =>
      simp only [Option.some.injEq, Prod.mk.injEq] at taken
      rw [← taken.2]
      exact afterDigits_length_lt found

theorem fraction?_length_le {t left : Text} {digits : List Nat}
    (taken : fraction? t = some (digits, left)) : left.length ≤ t.length := by
  unfold fraction? at taken
  split at taken
  · next rest =>
    split at taken
    · simp at taken
    · simp only [Option.some.injEq, Prod.mk.injEq] at taken
      rw [← taken.2]
      exact Nat.le_succ_of_le (afterDigits_length_le rest)
  · simp at taken

theorem exponentSign_length_le (t : Text) : (exponentSign t).2.length ≤ t.length := by
  unfold exponentSign
  split <;> simp

theorem exponent?_length_le {t left : Text} {exponent : Int}
    (taken : exponent? t = some (exponent, left)) : left.length ≤ t.length := by
  unfold exponent? at taken
  split at taken
  · next rest =>
    split at taken
    · simp only at taken
      split at taken
      · simp at taken
      · simp only [Option.some.injEq, Prod.mk.injEq] at taken
        rw [← taken.2]
        exact Nat.le_succ_of_le
          (Nat.le_trans (afterDigits_length_le _) (exponentSign_length_le rest))
    · simp at taken
  · simp at taken

theorem splitFraction_length_le (t : Text) : (splitFraction t).2.1.length ≤ t.length := by
  unfold splitFraction
  split
  · next taken => exact fraction?_length_le taken
  · exact Nat.le_refl _

theorem splitExponent_length_le (t : Text) : (splitExponent t).2.1.length ≤ t.length := by
  unfold splitExponent
  split
  · next taken => exact exponent?_length_le taken
  · exact Nat.le_refl _

theorem readMagnitude_length_lt {negative : Bool} {t left : Text} {value : Except Stop Sample}
    (taken : readMagnitude negative t = some (value, left)) : left.length < t.length := by
  unfold readMagnitude at taken
  split at taken
  · simp at taken
  · next whole rest found =>
    have shorter := wholePart?_length_lt found
    have afterFraction := splitFraction_length_le rest
    have afterExponent := splitExponent_length_le (splitFraction rest).2.1
    have ends : left = (splitExponent (splitFraction rest).2.1).2.1 := by
      simp only at taken
      split at taken <;> simp only [Option.some.injEq, Prod.mk.injEq] at taken <;>
        exact taken.2.symm
    rw [ends]
    omega

theorem readNumber_length_lt {t left : Text} {value : Except Stop Sample}
    (taken : readNumber t = some (value, left)) : left.length < t.length := by
  unfold readNumber at taken
  split at taken
  · exact Nat.lt_succ_of_lt (readMagnitude_length_lt taken)
  · exact readMagnitude_length_lt taken

/-- The words that are values, with the values. -/
def wordValues : List (Text × Sample) := [
  ("null", .null),
  ("true", .bool true),
  ("false", .bool false),
  ("NaN", .float .nan),
  ("Infinity", .float (.infinite false)),
  ("-Infinity", .float (.infinite true))]

/-- The value of the word that a text starts with, and the rest. -/
def readWord (t : Text) : Option (Sample × Text) :=
  match wordValues.find? fun word => t.startsWith word.1 with
  | some (word, value) => some (value, t.drop word.length)
  | none => none

theorem readWord_length_lt {t left : Text} {value : Sample}
    (taken : readWord t = some (value, left)) : left.length < t.length := by
  unfold readWord at taken
  split at taken
  · next word _ found =>
    simp only [Option.some.injEq, Prod.mk.injEq] at taken
    have listed := List.mem_of_find?_eq_some found
    have starts := List.find?_some found
    have fits : word.length ≤ t.length := by
      simp only [Text.startsWith, List.isPrefixOf_iff_prefix] at starts
      exact starts.length_le
    have long : 0 < word.length := by
      simp only [wordValues, List.mem_cons, Prod.mk.injEq, List.not_mem_nil, or_false] at listed
      rcases listed with ⟨rfl, _⟩ | ⟨rfl, _⟩ | ⟨rfl, _⟩ | ⟨rfl, _⟩ | ⟨rfl, _⟩ | ⟨rfl, _⟩ <;>
        simp [Text.ofString]
    rw [← taken.2, List.length_drop]
    omega
  · simp at taken

/-- A value that is neither a string nor has parts: a word or a number. -/
def readPlain (t : Text) : Except Stop (Sample × Rest t) :=
  match word : readWord t with
  | some (value, left) => .ok (value, ⟨left, readWord_length_lt word⟩)
  | none =>
    match number : readNumber t with
    | none => .error (.fault .expectingValue t)
    | some (.error stop, _) => .error stop
    | some (.ok value, left) => .ok (value, ⟨left, readNumber_length_lt number⟩)

/-! ### Values -/

/-- Sets a member: at the position of its key if there is one, else at the end. -/
def setMember (key : Text) (value : Sample) : List (Text × Sample) → List (Text × Sample)
  | [] => [(key, value)]
  | (k, v) :: rest => if k = key then (k, value) :: rest else (k, v) :: setMember key value rest

/-- The members as they are read, with each key once. -/
def collectMembers (members : List (Text × Sample)) : List (Text × Sample) :=
  members.foldl (fun collected member => setMember member.1 member.2 collected) []

/-- The name of a member and what follows its colon. -/
def readName (t : Text) : Except Stop (Text × Rest t) :=
  match t with
  | .scalar '"' :: left =>
    match readString t left with
    | .error stop => .error stop
    | .ok (name, rest) =>
      match h : skip rest.1 with
      | .scalar ':' :: left =>
        .ok (name, ⟨skip left, by
          have atColon := skip_length_le rest.1
          have afterColon := skip_length_le left
          have taken := rest.2
          rw [h] at atColon
          simp at atColon taken ⊢
          omega⟩)
      | left => .error (.fault .expectingColon left)
  | _ => .error (.fault .expectingName t)

mutual

/-- The value at the start of a text. -/
def readValue (t : Text) : Except Stop (Sample × Rest t) :=
  match t with
  | .scalar '"' :: left =>
    match readString t left with
    | .error stop => .error stop
    | .ok (value, rest) => .ok (.str value, rest.weaken (by simp))
  | .scalar '[' :: left =>
    match h : skip left with
    | .scalar ']' :: left' =>
      .ok (.list [], ⟨left', by have := skip_length_le left; rw [h] at this; simp at this ⊢; omega⟩)
    | _ =>
      match readItems (skip left) with
      | .error stop => .error stop
      | .ok (items, rest) =>
        .ok (.list items, rest.weaken (by have := skip_length_le left; simp only [List.length_cons]; omega))
  | .scalar '\x7b' :: left =>
    match h : skip left with
    | .scalar '\x7d' :: left' =>
      .ok (.object [], ⟨left', by have := skip_length_le left; rw [h] at this; simp at this ⊢; omega⟩)
    | _ =>
      match readMembers (skip left) with
      | .error stop => .error stop
      | .ok (members, rest) =>
        .ok (.object (collectMembers members),
          rest.weaken (by have := skip_length_le left; simp only [List.length_cons]; omega))
  | other => readPlain other
termination_by 2 * t.length
decreasing_by
  all_goals have := skip_length_le left; simp only [List.length_cons]; omega

/-- The items of a list from the first on, and what follows its bracket. -/
def readItems (t : Text) : Except Stop (List Sample × Rest t) :=
  match readValue t with
  | .error stop => .error stop
  | .ok (item, rest) =>
    match h : skip rest.1 with
    | .scalar ']' :: left =>
      .ok ([item], ⟨left, by
        have := skip_length_le rest.1
        have taken := rest.2
        rw [h] at this
        simp at this
        omega⟩)
    | .scalar ',' :: left =>
      match readItems (skip left) with
      | .error stop => .error stop
      | .ok (items, last) =>
        .ok (item :: items, last.weaken (by
          have := skip_length_le rest.1
          have taken := rest.2
          have next := skip_length_le left
          rw [h] at this
          simp at this
          omega))
    | left => .error (.fault .expectingComma left)
termination_by 2 * t.length + 1
decreasing_by
  all_goals simp_wf
  have := skip_length_le rest.1
  have taken := rest.2
  have next := skip_length_le left
  rw [h] at this
  simp at this
  omega

/-- The members of an object from the first on, and what follows its brace. -/
def readMembers (t : Text) : Except Stop (List (Text × Sample) × Rest t) :=
  match readName t with
  | .error stop => .error stop
  | .ok (name, start) =>
    match readValue start.1 with
    | .error stop => .error stop
    | .ok (value, rest) =>
      match h : skip rest.1 with
      | .scalar '\x7d' :: left =>
        .ok ([(name, value)], ⟨left, by
          have := skip_length_le rest.1
          have named := start.2
          have taken := rest.2
          rw [h] at this
          simp at this
          omega⟩)
      | .scalar ',' :: left =>
        match readMembers (skip left) with
        | .error stop => .error stop
        | .ok (members, last) =>
          .ok ((name, value) :: members, last.weaken (by
            have := skip_length_le rest.1
            have named := start.2
            have taken := rest.2
            have next := skip_length_le left
            rw [h] at this
            simp at this
            omega))
      | left => .error (.fault .expectingComma left)
termination_by 2 * t.length + 1
decreasing_by
  · simp_wf
    omega
  · simp_wf
    have := skip_length_le rest.1
    have named := start.2
    have taken := rest.2
    have next := skip_length_le left
    rw [h] at this
    simp at this
    omega

end

/-- The document that a text holds. -/
def readDocument (t : Text) : Except Stop Sample :=
  match t with
  | .scalar '\uFEFF' :: _ => .error (.fault .byteOrderMark t)
  | _ =>
    match readValue (skip t) with
    | .error stop => .error stop
    | .ok (value, rest) =>
      match skip rest.1 with
      | [] => .ok value
      | left => .error (.fault .extraData left)

/-- The sample that a text holds, or why it holds none. -/
def read (t : Text) : Except ReadError Sample :=
  match readDocument t with
  | .error stop => .error (stop.toError t)
  | .ok value => .ok value

end Sample
end ClassMold
