/-!
Double-precision numbers by value. Arithmetic is exact in integers and rounds once, to the nearest
representable number and at a tie to the one with an even significand.
-/
namespace ClassMold

/-- A double-precision number. A finite one is `significand * 2 ^ exponent` with a sign, and its
significand has at most 53 bits. -/
inductive Binary64 where
  | nan
  | infinite (negative : Bool)
  | finite (negative : Bool) (significand : Nat) (exponent : Int)
  deriving DecidableEq

namespace Binary64

/-- A power of two. -/
def twoTo (n : Nat) : Nat := Nat.pow 2 n

/-- A power of ten. -/
def tenTo (n : Nat) : Nat := Nat.pow 10 n

/-- The least exponent of a finite number. -/
def minExponent : Int := -1074

/-- The greatest exponent of a finite number. -/
def maxExponent : Int := 971

/-- Zero with a sign. -/
def zero (negative : Bool) : Binary64 := .finite negative 0 minExponent

/-- A quotient rounded to the nearest integer, at a tie to the even one. -/
def roundQuotient (numerator denominator : Nat) : Nat :=
  let quotient := numerator / denominator
  let twice := 2 * (numerator % denominator)
  if twice < denominator then quotient
  else if twice > denominator then quotient + 1
  else quotient + quotient % 2

/-- `numerator / denominator / 2 ^ exponent` rounded to an integer. -/
def roundScaled (numerator denominator : Nat) (exponent : Int) : Nat :=
  if 0 ≤ exponent then roundQuotient numerator (denominator * twoTo exponent.toNat)
  else roundQuotient (numerator * twoTo (-exponent).toNat) denominator

/-- The exponent of the highest power of two that a positive quotient reaches. -/
def topExponent (numerator denominator : Nat) : Int :=
  let guess : Int := Int.ofNat numerator.log2 - Int.ofNat denominator.log2
  let reached :=
    if 0 ≤ guess then denominator * twoTo guess.toNat ≤ numerator
    else denominator ≤ numerator * twoTo (-guess).toNat
  if reached then guess else guess - 1

/-- The double nearest to a quotient with a sign. -/
def ofQuotient (negative : Bool) (numerator denominator : Nat) : Binary64 :=
  if numerator = 0 then zero negative
  else
    let exponent := max (topExponent numerator denominator - 52) minExponent
    let significand := roundScaled numerator denominator exponent
    let (significand, exponent) :=
      if significand = twoTo 53 then (twoTo 52, exponent + 1) else (significand, exponent)
    if exponent > maxExponent then .infinite negative else .finite negative significand exponent

/-- The double nearest to `digits * 10 ^ exponent`. Beyond the bounds tested first the answer does not
depend on the digits, so no power of ten grows with the exponent as written. -/
def ofDecimal (negative : Bool) (digits : Nat) (exponent : Int) : Binary64 :=
  if digits = 0 then zero negative
  else
    let magnitude := Int.ofNat (Nat.toDigits 10 digits).length + exponent
    if magnitude > 310 then .infinite negative
    else if magnitude < -330 then zero negative
    else if 0 ≤ exponent then ofQuotient negative (digits * tenTo exponent.toNat) 1
    else ofQuotient negative digits (tenTo (-exponent).toNat)

/-- The value of a finite number as a signed numerator over a power of two. -/
def toFraction? : Binary64 → Option (Int × Nat)
  | .finite negative significand exponent =>
    let signed : Int := if negative then -Int.ofNat significand else Int.ofNat significand
    if 0 ≤ exponent then some (signed * Int.ofNat (twoTo exponent.toNat), 1)
    else some (signed, twoTo (-exponent).toNat)
  | _ => none

/-- Whether the sign bit is set. -/
def isNegative : Binary64 → Bool
  | .nan => false
  | .infinite negative => negative
  | .finite negative _ _ => negative

/-- The number with the other sign. -/
def negate : Binary64 → Binary64
  | .nan => .nan
  | .infinite negative => .infinite (!negative)
  | .finite negative significand exponent => .finite (!negative) significand exponent

/-- The double nearest to a signed fraction. -/
def ofFraction (numerator : Int) (denominator : Nat) : Binary64 :=
  ofQuotient (numerator < 0) numerator.natAbs denominator

/-- The double nearest to an integer. -/
def ofInt (n : Int) : Binary64 := ofFraction n 1

/-- Addition. A sum of two zeros is negative only if both are. -/
def add (x y : Binary64) : Binary64 :=
  match x.toFraction?, y.toFraction? with
  | some (a, b), some (c, d) =>
    let numerator := a * d + c * b
    if numerator = 0 then zero (x.isNegative && y.isNegative) else ofFraction numerator (b * d)
  | none, some _ => x
  | some _, none => y
  | none, none => if x = y then x else .nan

/-- Multiplication. The product of an infinite number and zero is none. -/
def mul (x y : Binary64) : Binary64 :=
  let negative := x.isNegative != y.isNegative
  match x.toFraction?, y.toFraction? with
  | some (a, b), some (c, d) => ofQuotient negative (a * c).natAbs (b * d)
  | none, some (c, _) => if x = .nan ∨ c = 0 then .nan else .infinite negative
  | some (a, _), none => if y = .nan ∨ a = 0 then .nan else .infinite negative
  | none, none => if x = .nan ∨ y = .nan then .nan else .infinite negative

/-- Whether a double has exactly the value of an integer. -/
def equalsInt (x : Binary64) (n : Int) : Bool :=
  match x.toFraction? with
  | some (numerator, denominator) => numerator == n * denominator
  | none => false

/-- Equality of values: the two zeros are equal, and not-a-number differs from itself. -/
def sameValue (x y : Binary64) : Bool :=
  match x.toFraction?, y.toFraction? with
  | some (a, b), some (c, d) => a * d == c * b
  | none, none => x == y && x != .nan
  | _, _ => false

end Binary64
end ClassMold
