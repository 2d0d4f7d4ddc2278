import ClassMold.Markup.Refusal

/-!
How a markup file becomes text. A file is decoded and checked in portions while it is read, so a flaw in a
later portion counts only if the text before that portion has no fault of its own.
-/
namespace ClassMold
namespace Markup

/-- The number of bytes that are decoded at once. -/
def chunkSize : Nat := 8192

/-- The number of characters that are asked for at once. The first portion is twice as long. -/
def portionSize : Nat := 4096

/-- Where the portion starts that a character belongs to. -/
def portionStart (index : Nat) : Nat :=
  if index < 2 * portionSize then 0 else index / portionSize * portionSize

/-- The text of a file up to the first portion that is flawed, and the flaw. -/
structure Delivery where
  text : Text
  flaw : Option Refusal

/-- Whether a character may stand in a document. -/
def isPrintable : CodePoint → Bool
  | .surrogate _ => false
  | .scalar c =>
    c == '\t' || c == '\n' || c == '\r' || (' ' ≤ c && c ≤ '~') || c == '\u0085' ||
      ('\u00a0' ≤ c && c ≤ '\uFFFD') || 0x10000 ≤ c.toNat

namespace Delivery

/-- Text that is sound as far as decoding goes, with the flaw that follows it. A character in it that may
not stand in a document is a flaw too, and comes before the other one. -/
def ofText (t : Text) (flaw : Option Refusal) : Delivery :=
  match t.findIdx? fun c => !isPrintable c with
  | none => ⟨t, flaw⟩
  | some position =>
    ⟨t.take (portionStart position), (t[position]?).map (.unprintable · position)⟩

/-- Where the bytes start that are decoded together with the one at a position: at the start of its chunk,
or before that where a sequence is cut by the start of the chunk. -/
def chunkStart (content : Bytes) (position : Nat) : Nat :=
  let start := position / chunkSize * chunkSize
  let cut := (content.drop start).head?.any fun b => 0x80 ≤ b.toNat && b.toNat < 0xC0
  if cut then
    let before := (content.take start).reverse.takeWhile fun b => 0x80 ≤ b.toNat && b.toNat < 0xC0
    start - before.length - 1
  else start

/-- Where the bytes start that are decoded together when an error shows. A sequence that the end cuts off
shows when nothing else is left; any other flaw shows at the first byte that does not fit. -/
def errorStart (content : Bytes) (e : Utf8.DecodeError) : Nat :=
  match e.flaw with
  | .unexpectedEnd => e.position
  | .invalidStart => min e.position (chunkStart (content.take e.position) e.position)
  | .invalidContinuation => min e.position (chunkStart (content.take e.position) (e.position + e.length))

/-- The text of a file whose content is given. A line feed may follow a carriage return at the end of what
is decoded, so that return is not handed out yet. -/
def ofBytes (content : Bytes) : Delivery :=
  match Utf8.decode content with
  | .ok t => ofText t.unifyLineEnds none
  | .error e =>
    let start := errorStart content e
    let before : Text := (Utf8.decode (content.take start)).toOption.getD []
    let settled : Text := if before.getLast? = some (.scalar '\r') then before.dropLast else before
    let t := settled.unifyLineEnds
    ofText (t.take (portionStart t.length))
      (some (.undecodable { e with position := e.position - start }))

end Delivery
end Markup
end ClassMold
