import Mathlib.Logic.Basic
import ClassMold.Proofs.Text.Casing
import ClassMold.Text.Utf8

/-! Text and its bytes tell the same. Bytes are decoded to a text exactly if they are its bytes, so
the decoder takes all that the encoder can write and nothing else. Both directions go character by
character: what the first byte of one promises is what its other bytes keep. -/
namespace ClassMold.Encoded
open Utf8

variable {value taken owed low high n position : Nat} {b first : UInt8} {bytes rest : Bytes} {lead : Lead}
  {t : Text} {c : Char}

/-! ### Bytes that follow a first one -/

theorem byte_of_nat (small : n < 0x100) : (UInt8.ofNat n).toNat = n := by
  rw [UInt8.toNat_ofNat']
  exact Nat.mod_eq_of_lt small

/-- A byte that follows carries the last six bits of a number. -/
theorem continuation_kept (below : low ≤ 0x80 + n % 0x40) (above : 0x80 + n % 0x40 ≤ high) :
    continuations (n / 0x40) taken (owed + 1) low high (.ofNat (0x80 + n % 0x40) :: rest) =
      continuations n (taken + 1) owed 0x80 0xBF rest := by
  have byte : (UInt8.ofNat (0x80 + n % 0x40)).toNat = 0x80 + n % 0x40 := byte_of_nat (by omega)
  have whole : n / 0x40 * 0x40 + (0x80 + n % 0x40 - 0x80) = n := by omega
  rw [continuations, byte, if_pos ⟨below, above⟩, whole]

theorem continuation_step (read : continuations value taken (owed + 1) low high bytes = .ok (n, rest)) :
    ∃ b left, bytes = b :: left ∧ low ≤ b.toNat ∧ b.toNat ≤ high ∧
      continuations (value * 0x40 + (b.toNat - 0x80)) (taken + 1) owed 0x80 0xBF left = .ok (n, rest) := by
  cases bytes with
  | nil => cases read
  | cons b left =>
    rw [continuations] at read
    split at read
    · rename_i within
      exact ⟨b, left, rfl, within.1, within.2, read⟩
    · cases read

theorem continuation_last (read : continuations value taken 0 low high bytes = .ok (n, rest)) :
    value = n ∧ bytes = rest := by
  rw [continuations] at read
  cases read
  exact ⟨rfl, rfl⟩

/-! ### The bytes of a character -/

/-- The number of a character. -/
def IsCharacter (n : Nat) : Prop := n < 0xD800 ∨ 0xE000 ≤ n ∧ n < 0x110000

theorem char_number (c : Char) : IsCharacter c.toNat := by
  have valid : c.toNat < 0xD800 ∨ 0xDFFF < c.toNat ∧ c.toNat < 0x110000 := c.valid
  exact valid.imp_right fun above => ⟨above.1, above.2⟩

theorem of_nat_char (c : Char) : CodePoint.ofNat c.toNat = .scalar c := Casing.of_nat_val (.scalar c)

theorem char_of_number (number : IsCharacter n) : ∃ c : Char, CodePoint.ofNat n = .scalar c ∧ c.toNat = n := by
  unfold IsCharacter at number
  have same : (CodePoint.ofNat n).val = n := Casing.val_of_nat_inside (by omega)
  cases made : CodePoint.ofNat n with
  | scalar c =>
    rw [made] at same
    exact ⟨c, rfl, same⟩
  | surrogate offset =>
    rw [made, CodePoint.val] at same
    omega

theorem encode_one (short : c.toNat < 0x80) : encodeChar c = [.ofNat c.toNat] := if_pos short

theorem encode_two (long : 0x80 ≤ c.toNat) (short : c.toNat < 0x800) :
    encodeChar c = [.ofNat (0xC0 + c.toNat / 0x40), .ofNat (0x80 + c.toNat % 0x40)] := by
  simp only [encodeChar, short, if_neg (Nat.not_lt.mpr long), ↓reduceIte]

theorem encode_three (long : 0x800 ≤ c.toNat) (short : c.toNat < 0x10000) :
    encodeChar c = [.ofNat (0xE0 + c.toNat / 0x1000), .ofNat (0x80 + c.toNat / 0x40 % 0x40),
      .ofNat (0x80 + c.toNat % 0x40)] := by
  have above : ¬ c.toNat < 0x80 := by omega
  simp only [encodeChar, above, short, if_neg (Nat.not_lt.mpr long), ↓reduceIte]

theorem encode_four (long : 0x10000 ≤ c.toNat) :
    encodeChar c = [.ofNat (0xF0 + c.toNat / 0x40000), .ofNat (0x80 + c.toNat / 0x40 / 0x40 % 0x40),
      .ofNat (0x80 + c.toNat / 0x40 % 0x40), .ofNat (0x80 + c.toNat % 0x40)] := by
  have above : ¬ c.toNat < 0x80 := by omega
  have beyond : ¬ c.toNat < 0x800 := by omega
  simp only [encodeChar, above, beyond, if_neg (Nat.not_lt.mpr long), ↓reduceIte, Nat.div_div_eq_div_mul,
    Nat.reduceMul]

/-! ### What a first byte promises -/

theorem two_promised (long : 0x80 ≤ n) (short : n < 0x800) :
    lead? (0xC0 + n / 0x40) = some ⟨n / 0x40, 1, 0x80, 0xBF⟩ := by
  rw [lead?, if_neg (by omega), if_neg (by omega), if_pos (by omega), Nat.add_sub_cancel_left]

/-- The first byte of three promises the range that the second one is in. -/
theorem three_promised (long : 0x800 ≤ n) (short : n < 0x10000) (number : IsCharacter n) :
    ∃ low high, lead? (0xE0 + n / 0x1000) = some ⟨n / 0x40 / 0x40, 2, low, high⟩ ∧
      low ≤ 0x80 + n / 0x40 % 0x40 ∧ 0x80 + n / 0x40 % 0x40 ≤ high := by
  unfold IsCharacter at number
  have bits : n / 0x1000 = n / 0x40 / 0x40 := by omega
  rw [bits, lead?, if_neg (by omega), if_neg (by omega), if_neg (by omega)]
  by_cases lowest : n / 0x40 / 0x40 = 0
  · rw [lowest]
    exact ⟨0xA0, 0xBF, rfl, by omega, by omega⟩
  by_cases surrogates : n / 0x40 / 0x40 = 0xD
  · rw [surrogates]
    exact ⟨0x80, 0x9F, rfl, by omega, by omega⟩
  · refine ⟨0x80, 0xBF, ?_, by omega, by omega⟩
    rw [if_neg (by omega), if_neg (by omega), if_pos (by omega), Nat.add_sub_cancel_left]

theorem four_promised (long : 0x10000 ≤ n) (number : IsCharacter n) :
    ∃ low high, lead? (0xF0 + n / 0x40000) = some ⟨n / 0x40 / 0x40 / 0x40, 3, low, high⟩ ∧
      low ≤ 0x80 + n / 0x40 / 0x40 % 0x40 ∧ 0x80 + n / 0x40 / 0x40 % 0x40 ≤ high := by
  unfold IsCharacter at number
  have bits : n / 0x40000 = n / 0x40 / 0x40 / 0x40 := by omega
  rw [bits, lead?, if_neg (by omega), if_neg (by omega), if_neg (by omega), if_neg (by omega),
    if_neg (by omega), if_neg (by omega)]
  by_cases lowest : n / 0x40 / 0x40 / 0x40 = 0
  · rw [lowest]
    exact ⟨0x90, 0xBF, rfl, by omega, by omega⟩
  by_cases highest : n / 0x40 / 0x40 / 0x40 = 4
  · rw [highest]
    exact ⟨0x80, 0x8F, rfl, by omega, by omega⟩
  · refine ⟨0x80, 0xBF, ?_, by omega, by omega⟩
    rw [if_neg (by omega), if_neg (by omega), if_pos (by omega), Nat.add_sub_cancel_left]

/-! ### One character -/

/-- The bytes of a character are read as its number. -/
theorem char_read (c : Char) (rest : Bytes) : ∃ first tail lead, encodeChar c = first :: tail ∧
    lead? first.toNat = some lead ∧
    continuations lead.bits 1 lead.owed lead.low lead.high (tail ++ rest) = .ok (c.toNat, rest) := by
  have number := char_number c
  have within : c.toNat < 0x110000 := by
    unfold IsCharacter at number
    omega
  by_cases one : c.toNat < 0x80
  · refine ⟨_, _, ⟨c.toNat, 0, 0x80, 0xBF⟩, encode_one one, ?_, rfl⟩
    rw [byte_of_nat (by omega)]
    exact if_pos one
  by_cases two : c.toNat < 0x800
  · have kept : continuations (c.toNat / 0x40) 1 1 0x80 0xBF (.ofNat (0x80 + c.toNat % 0x40) :: rest) =
        .ok (c.toNat, rest) := continuation_kept (by omega) (by omega)
    refine ⟨_, _, ⟨c.toNat / 0x40, 1, 0x80, 0xBF⟩, encode_two (by omega) two, ?_, kept⟩
    rw [byte_of_nat (by omega)]
    exact two_promised (by omega) two
  by_cases three : c.toNat < 0x10000
  · obtain ⟨low, high, promised, below, above⟩ := three_promised (by omega) three number
    refine ⟨_, _, ⟨c.toNat / 0x40 / 0x40, 2, low, high⟩, encode_three (by omega) three, ?_, ?_⟩
    · rw [byte_of_nat (by omega)]
      exact promised
    · exact (continuation_kept below above).trans (continuation_kept (by omega) (by omega))
  · obtain ⟨low, high, promised, below, above⟩ := four_promised (by omega) number
    refine ⟨_, _, ⟨c.toNat / 0x40 / 0x40 / 0x40, 3, low, high⟩, encode_four (by omega), ?_, ?_⟩
    · rw [byte_of_nat (by omega)]
      exact promised
    · refine (continuation_kept below above).trans ?_
      exact (continuation_kept (by omega) (by omega)).trans (continuation_kept (by omega) (by omega))

section Written

variable {x y z : UInt8}

theorem byte_shown {b : UInt8} (same : b.toNat = n) : b = .ofNat n := by rw [← same, UInt8.ofNat_toNat]

theorem two_written (start : first.toNat = 0xC0 + value) (lowX : 0x80 ≤ x.toNat) (highX : x.toNat ≤ 0xBF)
    (found : value * 0x40 + (x.toNat - 0x80) = n) (long : 0x80 ≤ n) (short : n < 0x800) :
    ∃ c : Char, CodePoint.ofNat n = .scalar c ∧ [first, x] = encodeChar c := by
  obtain ⟨c, made, same⟩ := char_of_number (.inl (by omega) : IsCharacter n)
  refine ⟨c, made, ?_⟩
  rw [encode_two (by omega) (by omega), same]
  exact congrArg₂ _ (byte_shown (by omega)) (congrArg (· :: []) (byte_shown (by omega)))

theorem three_written (start : first.toNat = 0xE0 + value) (lowX : 0x80 ≤ x.toNat) (highX : x.toNat ≤ 0xBF)
    (lowY : 0x80 ≤ y.toNat) (highY : y.toNat ≤ 0xBF)
    (found : (value * 0x40 + (x.toNat - 0x80)) * 0x40 + (y.toNat - 0x80) = n) (long : 0x800 ≤ n)
    (short : n < 0x10000) (number : IsCharacter n) :
    ∃ c : Char, CodePoint.ofNat n = .scalar c ∧ [first, x, y] = encodeChar c := by
  obtain ⟨c, made, same⟩ := char_of_number number
  refine ⟨c, made, ?_⟩
  rw [encode_three (by omega) (by omega), same]
  have shown : first = .ofNat (0xE0 + n / 0x1000) := byte_shown (by omega)
  have next : x = .ofNat (0x80 + n / 0x40 % 0x40) := byte_shown (by omega)
  have last : y = .ofNat (0x80 + n % 0x40) := byte_shown (by omega)
  rw [← shown, ← next, ← last]

theorem four_written (start : first.toNat = 0xF0 + value) (lowX : 0x80 ≤ x.toNat) (highX : x.toNat ≤ 0xBF)
    (lowY : 0x80 ≤ y.toNat) (highY : y.toNat ≤ 0xBF) (lowZ : 0x80 ≤ z.toNat) (highZ : z.toNat ≤ 0xBF)
    (found : ((value * 0x40 + (x.toNat - 0x80)) * 0x40 + (y.toNat - 0x80)) * 0x40 + (z.toNat - 0x80) = n)
    (long : 0x10000 ≤ n) (inside : n < 0x110000) :
    ∃ c : Char, CodePoint.ofNat n = .scalar c ∧ [first, x, y, z] = encodeChar c := by
  obtain ⟨c, made, same⟩ := char_of_number (.inr ⟨by omega, inside⟩ : IsCharacter n)
  refine ⟨c, made, ?_⟩
  rw [encode_four (by omega), same]
  have shown : first = .ofNat (0xF0 + n / 0x40000) := byte_shown (by omega)
  have next : x = .ofNat (0x80 + n / 0x40 / 0x40 % 0x40) := byte_shown (by omega)
  have third : y = .ofNat (0x80 + n / 0x40 % 0x40) := byte_shown (by omega)
  have last : z = .ofNat (0x80 + n % 0x40) := byte_shown (by omega)
  rw [← shown, ← next, ← third, ← last]

end Written

/-- A first byte owes none to three bytes. Where two or three are owed, the range of the next one
shuts out what is written shorter, the surrogates and what is beyond the code space. -/
theorem lead_cases (begins : lead? n = some lead) :
    (n < 0x80 ∧ lead = ⟨n, 0, 0x80, 0xBF⟩) ∨
    (0xC2 ≤ n ∧ n < 0xE0 ∧ lead = ⟨n - 0xC0, 1, 0x80, 0xBF⟩) ∨
    (∃ low high, 0xE0 ≤ n ∧ n < 0xF0 ∧ lead = ⟨n - 0xE0, 2, low, high⟩ ∧ 0x80 ≤ low ∧ high ≤ 0xBF ∧
      (n = 0xE0 → 0xA0 ≤ low) ∧ (n = 0xED → high ≤ 0x9F)) ∨
    (∃ low high, 0xF0 ≤ n ∧ n < 0xF5 ∧ lead = ⟨n - 0xF0, 3, low, high⟩ ∧ 0x80 ≤ low ∧ high ≤ 0xBF ∧
      (n = 0xF0 → 0x90 ≤ low) ∧ (n = 0xF4 → high ≤ 0x8F)) := by
  unfold lead? at begins
  repeat' split at begins
  all_goals simp only [Option.some.injEq, reduceCtorEq] at begins
  all_goals subst begins
  · exact .inl ⟨by omega, rfl⟩
  · exact .inr (.inl ⟨by omega, by omega, rfl⟩)
  · subst n
    exact .inr (.inr (.inl ⟨_, _, by decide, by decide, rfl, by decide⟩))
  · subst n
    exact .inr (.inr (.inl ⟨_, _, by decide, by decide, rfl, by decide⟩))
  · exact .inr (.inr (.inl ⟨_, _, by omega, by omega, rfl, by omega⟩))
  · subst n
    exact .inr (.inr (.inr ⟨_, _, by decide, by decide, rfl, by decide⟩))
  · subst n
    exact .inr (.inr (.inr ⟨_, _, by decide, by decide, rfl, by decide⟩))
  · exact .inr (.inr (.inr ⟨_, _, by omega, by omega, rfl, by omega⟩))

/-- What is read as a number are the bytes of a character. -/
theorem sequence_written (begins : lead? first.toNat = some lead)
    (read : continuations lead.bits 1 lead.owed lead.low lead.high bytes = .ok (n, rest)) :
    ∃ c : Char, CodePoint.ofNat n = .scalar c ∧ first :: bytes = encodeChar c ++ rest := by
  have followed {own : Bytes} (written : ∃ c : Char, CodePoint.ofNat n = .scalar c ∧ own = encodeChar c) :
      ∃ c : Char, CodePoint.ofNat n = .scalar c ∧ own ++ rest = encodeChar c ++ rest := by
    obtain ⟨c, made, rfl⟩ := written
    exact ⟨c, made, rfl⟩
  rcases lead_cases begins with ⟨short, rfl⟩ | ⟨above, below, rfl⟩ |
    ⟨low, high, above, below, rfl, lowest, highest, overlong, surrogate⟩ |
    ⟨low, high, above, below, rfl, lowest, highest, overlong, beyond⟩
  all_goals dsimp only at read
  · obtain ⟨rfl, rfl⟩ := continuation_last read
    obtain ⟨c, made, same⟩ := char_of_number (.inl (by omega) : IsCharacter first.toNat)
    refine ⟨c, made, ?_⟩
    rw [encode_one (by omega), same, UInt8.ofNat_toNat]
    rfl
  · obtain ⟨x, _, rfl, lowX, highX, read⟩ := continuation_step read
    obtain ⟨found, rfl⟩ := continuation_last read
    exact followed (two_written (by omega) lowX highX found (by omega) (by omega))
  · obtain ⟨x, _, rfl, lowX, highX, read⟩ := continuation_step read
    obtain ⟨y, _, rfl, lowY, highY, read⟩ := continuation_step read
    obtain ⟨found, rfl⟩ := continuation_last read
    exact followed (three_written (by omega) (by omega) (by omega) lowY highY found (by omega) (by omega)
      (by unfold IsCharacter; omega))
  · obtain ⟨x, _, rfl, lowX, highX, read⟩ := continuation_step read
    obtain ⟨y, _, rfl, lowY, highY, read⟩ := continuation_step read
    obtain ⟨z, _, rfl, lowZ, highZ, read⟩ := continuation_step read
    obtain ⟨found, rfl⟩ := continuation_last read
    exact followed (four_written (by omega) (by omega) (by omega) lowY highY lowZ highZ found (by omega)
      (by omega))

/-! ### Whole texts -/

theorem encode_cons : encodeFrom position (.scalar c :: t) = .ok bytes ↔
    ∃ others, encodeFrom (position + 1) t = .ok others ∧ encodeChar c ++ others = bytes := by
  rw [encodeFrom]
  cases encodeFrom (position + 1) t <;> simp

theorem decode_cons (begins : lead? first.toNat = some lead)
    (read : continuations lead.bits 1 lead.owed lead.low lead.high bytes = .ok (n, rest))
    (others : decodeFrom (position + lead.owed + 1) rest = .ok t) :
    decodeFrom position (first :: bytes) = .ok (.ofNat n :: t) := by
  rw [decodeFrom]
  split
  · rename_i none
    cases begins.symm.trans none
  · rename_i again
    cases begins.symm.trans again
    split
    · rename_i fails
      cases read.symm.trans fails
    · rename_i same
      cases read.symm.trans same
      simp only [others]

/-- What is decoded is encoded to the bytes it comes of, wherever it stands. -/
theorem decoded_encoded (position : Nat) (bytes : Bytes) :
    ∀ t before, decodeFrom position bytes = .ok t → encodeFrom before t = .ok bytes := by
  fun_induction decodeFrom position bytes with
  | case1 position =>
    intro t before decoded
    cases decoded
    rfl
  | case2 => intro t before decoded; cases decoded
  | case3 => intro t before decoded; cases decoded
  | case4 => intro t before decoded; cases decoded
  | case5 position first rest lead begins n left read t decoded ih =>
    intro u before same
    cases same
    obtain ⟨c, made, shape⟩ := sequence_written begins read
    rw [made, encode_cons]
    exact ⟨left, ih t _ decoded, shape.symm⟩

theorem encoded_decoded (before position : Nat) (encoded : encodeFrom before t = .ok bytes) :
    decodeFrom position bytes = .ok t := by
  induction t generalizing before position bytes with
  | nil =>
    cases encoded
    rw [decodeFrom]
  | cons c t ih =>
    cases c with
    | surrogate offset => cases encoded
    | scalar c =>
      obtain ⟨others, left, rfl⟩ := encode_cons.mp encoded
      obtain ⟨first, tail, lead, shape, begins, read⟩ := char_read c others
      rw [shape, List.cons_append, decode_cons begins read (ih _ _ left), of_nat_char]

/-- Bytes hold a text exactly if they are the bytes of this text. -/
theorem decode_iff_encode (bytes : Bytes) (t : Text) : decode bytes = .ok t ↔ encode t = .ok bytes :=
  ⟨decoded_encoded 0 bytes t 0, encoded_decoded 0 0⟩

end ClassMold.Encoded
