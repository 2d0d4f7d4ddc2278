import ClassMold.Text.CodePoint

/-!
White space of Unicode 14.0: the separators of categories Zs, Zl and Zp and the control characters
that break lines or columns.
-/
namespace ClassMold
namespace CodePoint

/-- White space. -/
def blankRanges : List (Nat × Nat) := [
  (0x9, 0xD), (0x1C, 0x20), (0x85, 0x85), (0xA0, 0xA0), (0x1680, 0x1680), (0x2000, 0x200A),
  (0x2028, 0x2029), (0x202F, 0x202F), (0x205F, 0x205F), (0x3000, 0x3000)]

/-- A white-space code point. -/
def isBlank (c : CodePoint) : Bool := c.within blankRanges

/-- White space that may surround a number: all but the four separators of ASCII. -/
def isNumberSpace (c : CodePoint) : Bool := c.isBlank && !(0x1C ≤ c.val && c.val ≤ 0x1F)

end CodePoint

namespace Text

/-- Whether a text holds nothing but white space. -/
def isBlank (t : Text) : Bool := t.all CodePoint.isBlank

/-- A text without the code points of a kind at its two ends. -/
def trim (drops : CodePoint → Bool) (t : Text) : Text :=
  ((t.dropWhile drops).reverse.dropWhile drops).reverse

end Text
end ClassMold
