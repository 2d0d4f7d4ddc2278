/-!
Text as the program reads and writes it: a list of code points. A JSON escape can spell half of a
surrogate pair on its own, so a code point is either a character or a lone surrogate, and only the
step that turns text into bytes may refuse it.
-/
namespace ClassMold

/-- One position of the Unicode code space, U+0000 to U+10FFFF. -/
inductive CodePoint where
  /-- A Unicode scalar value. -/
  | scalar (c : Char)
  /-- A surrogate that stands alone: U+D800 plus the offset. -/
  | surrogate (offset : Fin 0x800)
  deriving DecidableEq

/-- A text may hold lone surrogates, which no `String` can. -/
abbrev Text := List CodePoint

namespace CodePoint

/-- The number of a code point. -/
def val : CodePoint → Nat
  | scalar c => c.toNat
  | surrogate offset => 0xD800 + offset.val

/-- The code point with a given number; a number outside the code space is replaced by U+FFFD. -/
def ofNat (n : Nat) : CodePoint :=
  if surrogates : 0xD800 ≤ n ∧ n < 0xE000 then surrogate ⟨n - 0xD800, by omega⟩
  else if n < 0x110000 then scalar (Char.ofNat n)
  else scalar '\uFFFD'

instance : Inhabited CodePoint := ⟨scalar ' '⟩

/-- An inclusive span of code point numbers, every `step`-th of which belongs to it. -/
structure Span where
  first : Nat
  last : Nat
  step : Nat

/-- Membership in a span. -/
def Span.holds (span : Span) (n : Nat) : Bool :=
  span.first ≤ n && n ≤ span.last && (n - span.first) % span.step == 0

/-- Membership in a set of code points given by inclusive ranges of numbers. -/
def within (ranges : List (Nat × Nat)) (c : CodePoint) : Bool :=
  ranges.any fun range => range.1 ≤ c.val && c.val ≤ range.2

/-- The value of an ASCII digit in a base up to sixteen. -/
def digit? (base : Nat) : CodePoint → Option Nat
  | surrogate _ => none
  | scalar c =>
    let value :=
      if '0' ≤ c ∧ c ≤ '9' then some (c.toNat - 0x30)
      else if 'a' ≤ c ∧ c ≤ 'f' then some (c.toNat - 0x61 + 10)
      else if 'A' ≤ c ∧ c ≤ 'F' then some (c.toNat - 0x41 + 10)
      else none
    value.filter (· < base)

/-- One of the ten ASCII digits. -/
def isAsciiDigit (c : CodePoint) : Bool := (c.digit? 10).isSome

end CodePoint

namespace Text

/-- The text of a string of characters. -/
def ofString (s : String) : Text := s.toList.map .scalar

instance : Coe String Text := ⟨ofString⟩

/-- The characters of a text; a lone surrogate is shown as U+FFFD. -/
def toString (t : Text) : String :=
  String.ofList (t.map fun
    | .scalar c => c
    | .surrogate _ => '\uFFFD')

/-- A number in decimal digits. -/
def ofNat (n : Nat) : Text := (Nat.toDigits 10 n).map .scalar

/-- A number in decimal digits, with a minus sign if it is negative. -/
def ofInt : Int → Text
  | .ofNat n => ofNat n
  | .negSucc n => .scalar '-' :: ofNat (n + 1)

/-- A number in lower-case hexadecimal digits, filled up with zeros to a width. -/
def hex (width n : Nat) : Text :=
  let digits := (Nat.toDigits 16 n).map CodePoint.scalar
  List.replicate (width - digits.length) (.scalar '0') ++ digits

/-- A number in decimal digits, filled up with zeros to a width. -/
def padded (width n : Nat) : Text :=
  let digits := ofNat n
  List.replicate (width - digits.length) (.scalar '0') ++ digits

/-- The texts one after another with a separator between neighbours. -/
def joinWith (separator : Text) : List Text → Text
  | [] => []
  | [t] => t
  | t :: rest => t ++ separator ++ joinWith separator rest

/-- The number written by a run of digits, the most significant first. -/
def readDigits (base : Nat) (digits : List Nat) : Nat :=
  digits.foldl (fun value digit => value * base + digit) 0

/-- Splits a text at every occurrence of one code point. -/
def splitAll (separator : CodePoint) : Text → List Text
  | [] => [[]]
  | c :: rest =>
    if c = separator then [] :: splitAll separator rest
    else
      match splitAll separator rest with
      | [] => [[c]]
      | part :: parts => (c :: part) :: parts

/-- Whether a text ends with another one. -/
def endsWith (t ending : Text) : Bool := ending.isSuffixOf t

/-- Whether a text starts with another one. -/
def startsWith (t beginning : Text) : Bool := beginning.isPrefixOf t

end Text

end ClassMold
