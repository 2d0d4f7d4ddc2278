import ClassMold.Number.Binary64
import ClassMold.Text.CodePoint

/-!
The decimal text of a double: the fewest digits that read back as the same number, and of those the
nearest to it. A style says when the digits are written with an exponent.
-/
namespace ClassMold
namespace Binary64

/-- The number of decimal digits; none for zero. -/
def digitCount (n : Nat) : Nat := if n = 0 then 0 else (Nat.toDigits 10 n).length

/-- The least power of ten above a positive quotient. -/
def pointPosition (numerator denominator : Nat) : Int :=
  if denominator ≤ numerator then digitCount (numerator / denominator)
  else 1 - Int.ofNat (digitCount ((denominator - 1) / numerator))

/-- A positive number and the open or closed interval of reals that round to it, all over one
denominator. -/
structure Rounding where
  value : Nat
  low : Nat
  high : Nat
  denominator : Nat
  closed : Bool

/-- The reals that round to a positive finite number. Below a power of two the gap is half as wide. -/
def rounding (significand : Nat) (exponent : Int) : Rounding :=
  let below := if significand = twoTo 52 ∧ exponent > minExponent then 1 else 2
  let factor := twoTo exponent.toNat
  { value := 4 * significand * factor
    low := (4 * significand - below) * factor
    high := (4 * significand + 2) * factor
    denominator := 4 * twoTo (-exponent).toNat
    closed := significand % 2 = 0 }

/-- Whether `digits * 10 ^ power` rounds to the number. -/
def Rounding.admits (r : Rounding) (digits : Nat) (power : Int) : Bool :=
  let scaled := digits * tenTo power.toNat * r.denominator
  let unit := tenTo (-power).toNat
  if r.closed then r.low * unit ≤ scaled && scaled ≤ r.high * unit
  else r.low * unit < scaled && scaled < r.high * unit

/-- The better of the two neighbours of the number among the multiples of a power of ten, if one of
them rounds to it. -/
def Rounding.neighbour? (r : Rounding) (power : Int) : Option Nat :=
  let numerator := r.value * tenTo (-power).toNat
  let denominator := r.denominator * tenTo power.toNat
  let down := numerator / denominator
  let up := down + 1
  let nearest := roundQuotient numerator denominator
  if r.admits nearest power then some nearest
  else if r.admits down power then some down
  else if r.admits up power then some up
  else none

/-- The shortest digits and their power of ten, trying one digit more at each step. -/
def Rounding.shortest (r : Rounding) (position : Int) : (steps : Nat) → (count : Nat) → Nat × Int
  | 0, _ => (r.value / r.denominator, 0)
  | steps + 1, count =>
    match r.neighbour? (position - count) with
    | some digits => (digits, position - count)
    | none => r.shortest position steps (count + 1)

/-- How digits are laid out. -/
structure Style where
  /-- Positional notation is used while the point stands after this position. -/
  positionalAbove : Int
  /-- Positional notation is used up to this position of the point. -/
  positionalUpTo : Int
  /-- Whether a positive exponent has a plus sign. -/
  exponentPlus : Bool
  /-- The least number of digits of an exponent. -/
  exponentWidth : Nat
  /-- The text of infinity. -/
  infinity : String
  /-- The text of not-a-number. -/
  notANumber : String

/-- Numbers in JSON documents. -/
def Style.document : Style := ⟨-5, 16, true, 1, "Infinity", "NaN"⟩

/-- Numbers in messages. -/
def Style.message : Style := ⟨-4, 16, true, 2, "inf", "nan"⟩

/-- The exponent of ten in a style. -/
def Style.exponent (style : Style) (n : Int) : Text :=
  let sign : Text := if n < 0 then "-" else if style.exponentPlus then "+" else ""
  "e" ++ sign ++ Text.padded style.exponentWidth n.natAbs

/-- A run of zeros. -/
def zeros (count : Nat) : Text := List.replicate count (.scalar '0')

/-- Digits with the point at a position, counted from their left end. -/
def Style.layout (style : Style) (digits : Text) (position : Int) : Text :=
  if style.positionalAbove < position ∧ position ≤ style.positionalUpTo then
    if position ≤ 0 then
      "0." ++ zeros (-position).toNat ++ digits
    else if digits.length ≤ position.toNat then
      digits ++ zeros (position.toNat - digits.length) ++ ".0"
    else
      digits.take position.toNat ++ "." ++ digits.drop position.toNat
  else
    match digits with
    | [digit] => digit :: style.exponent (position - 1)
    | digit :: rest => digit :: .scalar '.' :: rest ++ style.exponent (position - 1)
    | [] => []

/-- Digits without zeros at their right end. -/
def trimZeros (digits : Text) : Text :=
  (digits.reverse.dropWhile (· = .scalar '0')).reverse

/-- The text of a number in a style. -/
def render (style : Style) : Binary64 → Text
  | .nan => style.notANumber
  | .infinite negative => (if negative then "-" else "") ++ style.infinity
  | .finite negative significand exponent =>
    let sign : Text := if negative then "-" else ""
    if significand = 0 then sign ++ "0.0"
    else
      let r := rounding significand exponent
      let (digits, power) := r.shortest (pointPosition r.value r.denominator) 17 1
      let written := Text.ofNat digits
      sign ++ style.layout (trimZeros written) (Int.ofNat written.length + power)

end Binary64
end ClassMold
