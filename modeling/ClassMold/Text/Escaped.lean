import ClassMold.Text.CodePoint

/-!
Texts in double quotes with JSON escapes. In the plain form only what JSON forbids in a string is
escaped; every such escape also means the same in a string literal of the generated code. The ASCII form
escapes all that is not printable ASCII and writes a code point above U+FFFF as two surrogates. A text
that only has to have bytes escapes nothing but lone surrogates.
-/
namespace ClassMold

namespace CodePoint

/-- The escape with four hexadecimal digits. -/
def unitEscape (n : Nat) : Text := "\\u" ++ Text.hex 4 n

/-- The escape of two characters that a code point has, if it has one. -/
def shortEscape? : CodePoint → Option Text
  | .scalar '"' => some "\\\""
  | .scalar '\\' => some "\\\\"
  | .scalar '\n' => some "\\n"
  | .scalar '\r' => some "\\r"
  | .scalar '\t' => some "\\t"
  | .scalar '\x08' => some "\\b"
  | .scalar '\x0c' => some "\\f"
  | _ => none

/-- A code point in a string in which all but control characters, quotes and backslashes may stand. -/
def plainEscape (c : CodePoint) : Text :=
  match c.shortEscape? with
  | some escape => escape
  | none => if c.val < 0x20 then unitEscape c.val else [c]

/-- A code point in a string of printable ASCII. -/
def asciiEscape (c : CodePoint) : Text :=
  match c.shortEscape? with
  | some escape => escape
  | none =>
    if 0x20 ≤ c.val ∧ c.val ≤ 0x7E then [c]
    else if c.val < 0x10000 then unitEscape c.val
    else
      let offset := c.val - 0x10000
      unitEscape (0xD800 + offset / 0x400) ++ unitEscape (0xDC00 + offset % 0x400)

end CodePoint

namespace Text

/-- A text as a string literal that escapes as little as possible. -/
def literal (t : Text) : Text := .scalar '"' :: t.flatMap CodePoint.plainEscape ++ [.scalar '"']

/-- A text as a string literal in printable ASCII. -/
def asciiLiteral (t : Text) : Text := .scalar '"' :: t.flatMap CodePoint.asciiEscape ++ [.scalar '"']

/-- A text with an escape in place of each lone surrogate, so that the text has bytes. -/
def escapeSurrogates (t : Text) : Text :=
  t.flatMap fun c =>
    match c with
    | .scalar _ => [c]
    | .surrogate _ => CodePoint.unitEscape c.val

end Text
end ClassMold
