import ClassMold.Markup.Refusal

/-!
Bytes in base sixty-four. Characters outside of the alphabet count for nothing, and nothing after
complete padding is read.
-/
namespace ClassMold
namespace Markup

/-- The value of a character of the alphabet. -/
def sextet? : CodePoint → Option Nat
  | .surrogate _ => none
  | .scalar c =>
    if 'A' ≤ c ∧ c ≤ 'Z' then some (c.toNat - 0x41)
    else if 'a' ≤ c ∧ c ≤ 'z' then some (c.toNat - 0x61 + 26)
    else if '0' ≤ c ∧ c ≤ '9' then some (c.toNat - 0x30 + 52)
    else if c = '+' then some 62
    else if c = '/' then some 63
    else none

/-- Bytes in the making. -/
structure Sextets where
  /-- How many characters of a group of four are read. -/
  position : Nat
  /-- The bits of them that are no byte yet. -/
  bits : Nat
  /-- How much padding follows them. -/
  padding : Nat
  /-- The bytes, the last one first. -/
  bytes : List UInt8

/-- The bytes after one more character of the alphabet. -/
def Sextets.push (s : Sextets) (value : Nat) : Sextets :=
  match s.position with
  | 0 => ⟨1, value, 0, s.bytes⟩
  | 1 => ⟨2, value % 16, 0, .ofNat (s.bits * 4 + value / 16) :: s.bytes⟩
  | 2 => ⟨3, value % 4, 0, .ofNat (s.bits * 16 + value / 4) :: s.bytes⟩
  | _ => ⟨0, 0, 0, .ofNat (s.bits * 64 + value) :: s.bytes⟩

/-- The bytes that the characters write, or what is wrong with them. -/
def decodeSextets (s : Sextets) : Text → Except Flaw Bytes
  | [] =>
    match s.position with
    | 0 => .ok s.bytes.reverse
    | 1 => .error (.strayBase64 (s.bytes.length / 3 * 4 + 1))
    | _ => .error .badPadding
  | c :: rest =>
    if c = .scalar '=' then
      if s.position ≥ 2 then
        if s.position + s.padding + 1 ≥ 4 then .ok s.bytes.reverse
        else decodeSextets { s with padding := s.padding + 1 } rest
      else decodeSextets s rest
    else
      match sextet? c with
      | none => decodeSextets s rest
      | some value => decodeSextets (s.push value) rest

/-- Whether a code point is one of ASCII. -/
def isAscii (c : CodePoint) : Bool := c.val < 0x80

/-- The first code points that are not ASCII. -/
def notAscii? (t : Text) : Option Flaw :=
  let before := t.takeWhile isAscii
  match t.drop before.length with
  | [] => none
  | first :: rest =>
    let others := rest.takeWhile fun c => !isAscii c
    some (.notAscii first before.length (before.length + others.length))

/-- The bytes that a scalar stands for. -/
def binary (content : Text) : Except Flaw Bytes :=
  match notAscii? content with
  | some flaw => .error flaw
  | none => decodeSextets ⟨0, 0, 0, []⟩ content

end Markup
end ClassMold
