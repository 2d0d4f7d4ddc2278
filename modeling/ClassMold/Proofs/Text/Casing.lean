import ClassMold.Identifier
import ClassMold.Text.Case

/-! What the case tables do to ASCII. Raising a code point never yields a small
ASCII letter, so whatever comes to stand first by raising cannot begin one of
the names that the language spells in small letters. Lowering one yields ASCII
from its capitals and from two letters besides, so such a name tells what it
was lowered from. -/
namespace ClassMold.Casing
open CodePoint

/-- One of the letters from `a` to `z`. -/
def AsciiSmall (c : CodePoint) : Prop := 0x61 ≤ c.val ∧ c.val ≤ 0x7A

instance : DecidablePred AsciiSmall := fun c => inferInstanceAs (Decidable (_ ∧ c.val ≤ 0x7A))

theorem val_of_nat_inside {n : Nat} (inside : n < 0x110000) : (ofNat n).val = n := by
  unfold ofNat
  split
  · simp only [val]
    omega
  · have valid : n.isValidChar := by
      simp only [Nat.isValidChar]
      omega
    rw [val, Char.ofNat, dif_pos valid]
    rfl

/-- A number outside the code space is replaced, and the replacement is no ASCII. -/
theorem val_of_nat (n : Nat) : (ofNat n).val = n ∨ (ofNat n).val = 0xFFFD := by
  by_cases inside : n < 0x110000
  · exact .inl (val_of_nat_inside inside)
  · right
    rw [ofNat, dif_neg (by omega), if_neg inside]
    rfl

theorem of_nat_val (c : CodePoint) : ofNat c.val = c := by
  cases c with
  | scalar c =>
    have valid : c.toNat < 0xD800 ∨ 0xDFFF < c.toNat ∧ c.toNat < 0x110000 := c.valid
    have outside : ¬ (0xD800 ≤ c.toNat ∧ c.toNat < 0xE000) := by omega
    have inside : c.toNat < 0x110000 := by omega
    simp only [ofNat, val, outside, inside, ↓reduceDIte, ↓reduceIte, Char.ofNat_toNat]
  | surrogate offset =>
    have inside : 0xD800 ≤ 0xD800 + offset.val ∧ 0xD800 + offset.val < 0xE000 := by omega
    simp [ofNat, val, inside]

/-- A case mapping answers with the sequence of a code point, or with another one at the distance
of a shift, or with the code point itself if no table holds it. -/
theorem map_case_cases (sequences : List (Nat × List Nat)) (shifts : List (Span × Int)) (c : CodePoint) :
    (∃ entry, sequences.find? (·.1 == c.val) = some entry ∧
        mapCase sequences shifts c = entry.2.map ofNat) ∨
      (sequences.find? (·.1 == c.val) = none ∧
        ((∃ entry ∈ shifts, entry.1.holds c.val = true ∧
            mapCase sequences shifts c = [ofNat (c.val + entry.2).toNat]) ∨
          ((∀ entry ∈ shifts, entry.1.holds c.val = false) ∧ mapCase sequences shifts c = [c]))) := by
  unfold mapCase
  cases told : sequences.find? (·.1 == c.val) with
  | some entry => exact .inl ⟨entry, rfl, rfl⟩
  | none =>
    right
    cases found : shifts.find? (·.1.holds c.val) with
    | some entry =>
      have held : entry.1.holds c.val = true := by simpa using List.find?_some found
      exact ⟨rfl, .inl ⟨entry, List.mem_of_find?_eq_some found, held, rfl⟩⟩
    | none => exact ⟨rfl, .inr ⟨by simpa using List.find?_eq_none.mp found, rfl⟩⟩

/-- Every shift of the table leads out of the small letters: the first entry
takes them away, and no other entry leads there. -/
theorem upper_shift_not_small (entry : Span × Int) (listed : entry ∈ toUpperShifts) (n : Nat)
    (held : entry.1.holds n = true) : ¬ (0x61 ≤ n + entry.2 ∧ n + entry.2 ≤ 0x7A) := by
  have table : ∀ entry ∈ toUpperShifts,
      entry.1.last + entry.2 < 0x61 ∨ 0x7A < entry.1.first + entry.2 := by decide +kernel
  have apart := table entry listed
  simp only [Span.holds, Bool.and_eq_true, decide_eq_true_eq] at held
  omega

/-- Every sequence of the table begins with something, and with no small letter. -/
theorem upper_sequence_not_small (entry : Nat × List Nat) (listed : entry ∈ toUpperSequences) :
    ∃ first rest, entry.2 = first :: rest ∧ ¬ (0x61 ≤ first ∧ first ≤ 0x7A) := by
  have table : ∀ entry ∈ toUpperSequences,
      entry.2.head?.any (fun first => first < 0x61 || 0x7A < first) = true := by decide
  have starts := table entry listed
  cases sequence : entry.2 with
  | nil => simp [sequence] at starts
  | cons first rest =>
    simp only [sequence, List.head?_cons, Option.any_some, Bool.or_eq_true, decide_eq_true_eq] at starts
    exact ⟨first, rest, rfl, by omega⟩

/-- The first entry of the table of shifts takes the small letters themselves. -/
theorem small_has_shift {c : CodePoint} (small : AsciiSmall c) :
    ∃ entry ∈ toUpperShifts, entry.1.holds c.val = true := by
  refine ⟨(⟨0x61, 0x7A, 1⟩, -32), List.Mem.head _, ?_⟩
  simp only [Span.holds, Nat.mod_one, Bool.and_eq_true, decide_eq_true_eq]
  exact ⟨small, rfl⟩

theorem placed_not_small (n : Nat) (outside : ¬ (0x61 ≤ n ∧ n ≤ 0x7A)) : ¬ AsciiSmall (ofNat n) := by
  intro small
  rcases val_of_nat n with same | replaced
  · exact outside (same ▸ small)
  · simp [AsciiSmall, replaced] at small

/-- A raised code point is never empty and never starts with a small letter. -/
theorem upper_starts (c : CodePoint) : ∃ first rest, c.toUpper = first :: rest ∧ ¬ AsciiSmall first := by
  unfold toUpper
  rcases map_case_cases toUpperSequences toUpperShifts c with
    ⟨entry, found, answer⟩ | ⟨-, ⟨entry, listed, held, answer⟩ | ⟨unheld, answer⟩⟩ <;> rw [answer]
  · obtain ⟨first, rest, shape, outside⟩ :=
      upper_sequence_not_small entry (List.mem_of_find?_eq_some found)
    exact ⟨ofNat first, rest.map ofNat, congrArg (List.map ofNat) shape, placed_not_small first outside⟩
  · have outside := upper_shift_not_small entry listed c.val held
    exact ⟨_, [], rfl, placed_not_small _ (by omega)⟩
  · refine ⟨c, [], rfl, fun small => ?_⟩
    obtain ⟨entry, listed, held⟩ := small_has_shift small
    exact absurd held (by simp [unheld entry listed])

/-! ### Lowering -/

theorem upper_small {c : CodePoint} (small : AsciiSmall c) : c.toUpper = [ofNat (c.val - 0x20)] := by
  have table : ∀ n ∈ List.range' 0x61 26, (ofNat n).toUpper = [ofNat (n - 0x20)] := by decide +kernel
  obtain ⟨low, high⟩ := small
  have raised := table c.val (List.mem_range'_1.mpr ⟨low, by omega⟩)
  rwa [of_nat_val] at raised

/-- Two shifts of the table lead to ASCII: that of the capitals and that of the Kelvin sign. -/
theorem lower_shift_ascii {entry : Span × Int} (listed : entry ∈ toLowerShifts) {n : Nat}
    (held : entry.1.holds n = true) (ascii : n + entry.2 < 0x80) :
    (0x41 ≤ n ∧ n ≤ 0x5A ∧ entry.2 = 0x20) ∨ n = 0x212A := by
  have table : ∀ entry ∈ toLowerShifts, 0x80 ≤ entry.1.first + entry.2 ∨
      (entry.1.first = 0x41 ∧ entry.1.last = 0x5A ∧ entry.2 = 0x20) ∨
      (entry.1.first = 0x212A ∧ entry.1.last = 0x212A) := by decide +kernel
  have leads := table entry listed
  simp only [Span.holds, Bool.and_eq_true, decide_eq_true_eq] at held
  omega

/-- What has a small form that starts with ASCII is that start itself or its capital, or else the
capital with a dot or the Kelvin sign. -/
theorem lower_ascii_cases {c first : CodePoint} {rest : Text} (lowered : c.toLower = first :: rest)
    (ascii : first.val < 0x80) :
    c = first ∨ (first.toUpper = [c] ∧ rest = []) ∨ c.val = 0x130 ∨ c.val = 0x212A := by
  have sequence : ∀ entry ∈ toLowerSequences, entry.1 = 0x130 := by decide
  unfold toLower at lowered
  rcases map_case_cases toLowerSequences toLowerShifts c with
    ⟨entry, found, answer⟩ | ⟨-, ⟨entry, listed, held, answer⟩ | ⟨-, answer⟩⟩ <;> rw [answer] at lowered
  · have own : entry.1 = c.val := by simpa using List.find?_some found
    exact .inr (.inr (.inl (own.symm.trans (sequence entry (List.mem_of_find?_eq_some found)))))
  · obtain ⟨rfl, rfl⟩ := List.cons.inj lowered
    rcases val_of_nat (c.val + entry.2).toNat with number | replaced
    · rcases lower_shift_ascii listed held (by omega) with ⟨low, high, distance⟩ | kelvin
      · have small : AsciiSmall (ofNat (c.val + entry.2).toNat) := ⟨by omega, by omega⟩
        have back : (ofNat (c.val + entry.2).toNat).val - 0x20 = c.val := by omega
        rw [upper_small small, back, of_nat_val]
        exact .inr (.inl ⟨rfl, rfl⟩)
      · exact .inr (.inr (.inr kelvin))
    · omega
  · exact .inl (List.cons.inj lowered).1

/-- The small letters are letters. -/
theorem letter_of_small {c : CodePoint} (small : AsciiSmall c) : c.isLetter = true := by
  simp only [isLetter, within, List.any_eq_true, Bool.and_eq_true, decide_eq_true_eq]
  exact ⟨(0x61, 0x7A), List.Mem.tail _ (List.Mem.head _), small⟩

end ClassMold.Casing
