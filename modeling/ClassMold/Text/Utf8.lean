import ClassMold.Text.CodePoint

/-!
Text as UTF-8 bytes. Decoding stops at the first byte that no well-formed sequence explains and reports
the part of a sequence before it; encoding stops at the first surrogate. Both errors name their place.
-/
namespace ClassMold

/-- The content of a file. -/
abbrev Bytes := List UInt8

namespace Utf8

/-! ### Decoding -/

/-- What is wrong with a sequence of bytes. -/
inductive Flaw where
  | invalidStart
  | invalidContinuation
  | unexpectedEnd
  deriving DecidableEq

/-- The wording of a flaw. -/
def Flaw.message : Flaw → Text
  | invalidStart => "invalid start byte"
  | invalidContinuation => "invalid continuation byte"
  | unexpectedEnd => "unexpected end of data"

/-- Why bytes are no text: the flaw, the offset of the sequence, its first byte and how many bytes of
it had been accepted. -/
structure DecodeError where
  flaw : Flaw
  position : Nat
  first : UInt8
  length : Nat
  deriving DecidableEq

/-- The wording of a decoding error that is given some reason. -/
def DecodeError.messageFor (reason : Text) (e : DecodeError) : Text :=
  let place : Text :=
    if e.length = 1 then "byte 0x" ++ Text.hex 2 e.first.toNat ++ " in position " ++ Text.ofNat e.position
    else
      "bytes in position " ++ Text.ofNat e.position ++ "-" ++ Text.ofNat (e.position + e.length - 1)
  "'utf-8' codec can't decode " ++ place ++ ": " ++ reason

/-- The wording of a decoding error. -/
def DecodeError.message (e : DecodeError) : Text := e.messageFor e.flaw.message

/-- What a first byte promises: the bits it carries, the number of bytes that follow, and the range of
the next one, which excludes overlong forms, surrogates and numbers beyond the code space. -/
structure Lead where
  bits : Nat
  owed : Nat
  low : Nat
  high : Nat

/-- The promise of a first byte. -/
def lead? (b : Nat) : Option Lead :=
  if b < 0x80 then some ⟨b, 0, 0x80, 0xBF⟩
  else if b < 0xC2 then none
  else if b < 0xE0 then some ⟨b - 0xC0, 1, 0x80, 0xBF⟩
  else if b = 0xE0 then some ⟨0, 2, 0xA0, 0xBF⟩
  else if b = 0xED then some ⟨0xD, 2, 0x80, 0x9F⟩
  else if b < 0xF0 then some ⟨b - 0xE0, 2, 0x80, 0xBF⟩
  else if b = 0xF0 then some ⟨0, 3, 0x90, 0xBF⟩
  else if b = 0xF4 then some ⟨4, 3, 0x80, 0x8F⟩
  else if b < 0xF4 then some ⟨b - 0xF0, 3, 0x80, 0xBF⟩
  else none

/-- Reads the bytes that a first one owes. Only the next byte has a range of its own. A failure comes
with the number of bytes accepted. -/
def continuations (value taken : Nat) :
    (owed low high : Nat) → Bytes → Except (Flaw × Nat) (Nat × Bytes)
  | 0, _, _, rest => .ok (value, rest)
  | _ + 1, _, _, [] => .error (.unexpectedEnd, taken)
  | owed + 1, low, high, b :: rest =>
    if low ≤ b.toNat ∧ b.toNat ≤ high then
      continuations (value * 0x40 + (b.toNat - 0x80)) (taken + 1) owed 0x80 0xBF rest
    else .error (.invalidContinuation, taken)

theorem continuations_length_le {value taken owed low high number : Nat} {bytes rest : Bytes}
    (read : continuations value taken owed low high bytes = .ok (number, rest)) :
    rest.length ≤ bytes.length := by
  induction owed generalizing value taken low high bytes with
  | zero => simp [continuations] at read; simp [read.2]
  | succ owed ih =>
    cases bytes with
    | nil => simp [continuations] at read
    | cons b bytes =>
      simp only [continuations] at read
      split at read
      · exact Nat.le_succ_of_le (ih read)
      · simp at read

/-- The text of bytes that stand at an offset. -/
def decodeFrom (position : Nat) (bytes : Bytes) : Except DecodeError Text :=
  match bytes with
  | [] => .ok []
  | first :: rest =>
    match lead? first.toNat with
    | none => .error ⟨.invalidStart, position, first, 1⟩
    | some lead =>
      match _read : continuations lead.bits 1 lead.owed lead.low lead.high rest with
      | .error (flaw, length) => .error ⟨flaw, position, first, length⟩
      | .ok (number, left) =>
        match decodeFrom (position + lead.owed + 1) left with
        | .error e => .error e
        | .ok t => .ok (.ofNat number :: t)
termination_by bytes.length
decreasing_by
  have := continuations_length_le _read
  simp only [List.length_cons]
  omega

/-- The text that bytes hold. -/
def decode (bytes : Bytes) : Except DecodeError Text := decodeFrom 0 bytes

/-! ### Encoding -/

/-- Why a text has no bytes: the first run of surrogates in it. -/
structure EncodeError where
  position : Nat
  first : Nat
  length : Nat
  deriving DecidableEq

/-- The wording of an encoding error. -/
def EncodeError.message (e : EncodeError) : Text :=
  let place : Text :=
    if e.length = 1 then "character '\\u" ++ Text.hex 4 e.first ++ "' in position " ++ Text.ofNat e.position
    else
      "characters in position " ++ Text.ofNat e.position ++ "-" ++
        Text.ofNat (e.position + e.length - 1)
  "'utf-8' codec can't encode " ++ place ++ ": surrogates not allowed"

/-- The bytes of a character. -/
def encodeChar (c : Char) : Bytes :=
  let n := c.toNat
  let tail (n : Nat) : UInt8 := .ofNat (0x80 + n % 0x40)
  if n < 0x80 then [.ofNat n]
  else if n < 0x800 then [.ofNat (0xC0 + n / 0x40), tail n]
  else if n < 0x10000 then [.ofNat (0xE0 + n / 0x1000), tail (n / 0x40), tail n]
  else [.ofNat (0xF0 + n / 0x40000), tail (n / 0x1000), tail (n / 0x40), tail n]

/-- Whether a code point is a lone surrogate. -/
def isSurrogate : CodePoint → Bool
  | .scalar _ => false
  | .surrogate _ => true

/-- The bytes of a text that follows a number of other code points. -/
def encodeFrom (position : Nat) : Text → Except EncodeError Bytes
  | [] => .ok []
  | .surrogate offset :: rest =>
    .error ⟨position, 0xD800 + offset.val, (rest.takeWhile isSurrogate).length + 1⟩
  | .scalar c :: rest =>
    match encodeFrom (position + 1) rest with
    | .error e => .error e
    | .ok bytes => .ok (encodeChar c ++ bytes)

/-- The bytes of a text. -/
def encode (t : Text) : Except EncodeError Bytes := encodeFrom 0 t

end Utf8

/-- A text in which every line ends with a single line feed. -/
def Text.unifyLineEnds : Text → Text
  | [] => []
  | .scalar '\r' :: .scalar '\n' :: rest => .scalar '\n' :: unifyLineEnds rest
  | .scalar '\r' :: rest => .scalar '\n' :: unifyLineEnds rest
  | c :: rest => c :: unifyLineEnds rest

end ClassMold
