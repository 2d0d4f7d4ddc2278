import ClassMold.Text.CodePoint

/-!
The limit on the digits of whole numbers. Whole numbers may be of any size, but they are read from decimal
digits and written in them only up to a limit.
-/
namespace ClassMold
namespace Decimal

/-- The greatest number of digits of a whole number. -/
def digitLimit : Nat := 4300

/-- Whether a whole number has too many digits to be written. -/
def isTooLong (n : Int) : Bool := Nat.pow 10 digitLimit ≤ n.natAbs

/-- The wording for a whole number that is too long to be read. -/
def readMessage (count : Nat) : Text :=
  "Exceeds the limit (" ++ Text.ofNat digitLimit ++
    " digits) for integer string conversion: value has " ++ Text.ofNat count ++
    " digits; use sys.set_int_max_str_digits() to increase the limit"

/-- The wording for a whole number that is too long to be written. -/
def writeMessage : Text :=
  "Exceeds the limit (" ++ Text.ofNat digitLimit ++
    " digits) for integer string conversion; use sys.set_int_max_str_digits() to increase the limit"

end Decimal
end ClassMold
