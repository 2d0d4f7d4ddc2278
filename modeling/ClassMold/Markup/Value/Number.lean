import ClassMold.Markup.Refusal
import ClassMold.Text.Blank
import ClassMold.Text.Category
import ClassMold.Text.Lower

/-!
Numbers from scalars. Whole numbers may be in base two, eight, ten, sixteen or sixty, the last as groups
with colons between them; other numbers are decimal or in base sixty. Underscores count for nothing.
-/
namespace ClassMold
namespace Markup

/-- A text without underscores. -/
def withoutUnderscores (t : Text) : Text := t.filter (· != .scalar '_')

/-- Whether a number is negative, and its text without a sign in front. -/
def splitSign : Text → Bool × Text
  | .scalar '-' :: rest => (true, rest)
  | .scalar '+' :: rest => (false, rest)
  | t => (false, t)

/-- A number with a sign. -/
def signed (negative : Bool) (n : Int) : Int := if negative then -n else n

/-- The value of a digit in a base. Decimal digits of any script count. -/
def digitValue? (base : Nat) (c : CodePoint) : Option Nat :=
  match c.digit? base with
  | some value => some value
  | none => c.decimalDigit?.filter (· < base)

/-- A text without the mark of a base in front of its digits. -/
def withoutBaseMark (base : Nat) : Text → Text
  | .scalar '0' :: .scalar mark :: rest =>
    let marks := if base = 16 then "xX" else if base = 8 then "oO" else if base = 2 then "bB" else ""
    if marks.toList.contains mark then rest else .scalar '0' :: .scalar mark :: rest
  | t => t

/-- The whole number that a text writes in a base. Only decimal numbers are limited in length. -/
def readWhole (base : Nat) (t : Text) : Except Refusal Int :=
  let (negative, magnitude) := splitSign (t.trim CodePoint.isNumberSpace)
  let body := withoutBaseMark base magnitude
  let digits := body.takeWhile fun c => (digitValue? base c).isSome
  if base = 10 ∧ digits.length > Decimal.digitLimit then .error (.tooManyDigits digits.length)
  else if digits = [] ∨ digits.length < body.length then .error (.notWhole base t)
  else .ok (signed negative (Text.readDigits base (digits.filterMap (digitValue? base))))

/-- The number that groups in base sixty write, the highest first. -/
def joinSixties (groups : List Int) : Int := groups.foldl (fun value group => value * 60 + group) 0

/-- The whole number that a scalar stands for. -/
def wholeNumber (content : Text) : Except Refusal Int := do
  let t := withoutUnderscores content
  let (negative, magnitude) := splitSign t
  let size ←
    match magnitude with
    | [] => .error .emptyNumber
    | first :: _ =>
      if magnitude = "0" then .ok 0
      else if magnitude.startsWith "0b" then readWhole 2 (magnitude.drop 2)
      else if magnitude.startsWith "0x" then readWhole 16 (magnitude.drop 2)
      else if first = .scalar '0' then readWhole 8 magnitude
      else if magnitude.contains (.scalar ':') then
        joinSixties <$> (Text.splitAll (.scalar ':') magnitude).mapM (readWhole 10)
      else readWhole 10 magnitude
  return signed negative size

/-! ### Numbers with a fraction -/

/-- The digits at the start of a text, and the rest. -/
def splitDigits (t : Text) : List Nat × Text :=
  let isDigit := fun c => (digitValue? 10 c).isSome
  ((t.takeWhile isDigit).filterMap (digitValue? 10), t.dropWhile isDigit)

/-- The exponent that a text writes as a whole; an empty text is an exponent of zero. -/
def readExponent? : Text → Option Int
  | [] => some 0
  | e :: rest =>
    if e = .scalar 'e' ∨ e = .scalar 'E' then
      let (negative, magnitude) := splitSign rest
      match splitDigits magnitude with
      | ([], _) => none
      | (digits, []) => some (signed negative (Text.readDigits 10 digits))
      | _ => none
    else none

/-- The number without a sign that a text writes as a whole. -/
def readMagnitude? (t : Text) : Option Binary64 :=
  let word := t.toLower
  if word = "inf" ∨ word = "infinity" then some (.infinite false)
  else if word = "nan" then some .nan
  else
    let (whole, rest) := splitDigits t
    let (fraction, rest) :=
      match rest with
      | .scalar '.' :: rest => splitDigits rest
      | rest => ([], rest)
    let digits := whole ++ fraction
    if digits = [] then none
    else
      (readExponent? rest).map fun exponent =>
        Binary64.ofDecimal false (Text.readDigits 10 digits) (exponent - fraction.length)

/-- The number that a text writes. -/
def readNumber (t : Text) : Except Refusal Binary64 :=
  let (negative, magnitude) := splitSign (t.trim CodePoint.isNumberSpace)
  match readMagnitude? magnitude with
  | none => .error (.notNumber t)
  | some size => .ok (if negative then size.negate else size)

/-- The sum of groups in base sixty, the lowest first, each weighted sixty times the one before. Weights,
products and sums are all rounded; a weight must not be beyond all doubles, even if nothing has it. -/
def sumSixties (weight : Nat) (sum : Binary64) : List Binary64 → Except Refusal Binary64
  | [] => .ok sum
  | group :: rest =>
    match Binary64.ofInt weight with
    | .infinite _ => .error .hugeWeight
    | rounded => sumSixties (weight * 60) (sum.add (group.mul rounded)) rest

/-- The number without a sign that groups in base sixty write, the highest first. -/
def readSixties (t : Text) : Except Refusal Binary64 := do
  let groups ← (Text.splitAll (.scalar ':') t).mapM readNumber
  sumSixties 1 (Binary64.zero false) groups.reverse

/-- A scalar without the parts of a number that do not count: underscores, case and sign. -/
def bareNumber (content : Text) : Bool × Text := splitSign (withoutUnderscores content).toLower

/-- Whether a scalar is the word for no number. -/
def isNanWord (content : Text) : Bool := (bareNumber content).2 == ".nan"

/-- The number that a scalar stands for. -/
def fractionalNumber (content : Text) : Except Refusal Binary64 := do
  let (negative, magnitude) := bareNumber content
  let size ←
    if withoutUnderscores content = [] then .error .emptyNumber
    else if magnitude = ".inf" then .ok (.infinite false)
    else if isNanWord content then .ok .nan
    else if magnitude.contains (.scalar ':') then readSixties magnitude
    else readNumber magnitude
  return if negative then size.negate else size

end Markup
end ClassMold
