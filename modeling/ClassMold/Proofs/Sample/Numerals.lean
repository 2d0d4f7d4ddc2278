import Mathlib.Data.List.Basic
import Mathlib.Tactic.IntervalCases
import ClassMold.Sample.Reader

/-! Numbers in a sample. Whatever is read as a number or a word, what is left is the end of the
text; and a whole number that is written out is read back as itself, as long as nothing behind it
goes on with it and it has not more digits than are read. -/
namespace ClassMold.Numerals
open Sample CodePoint

variable {t left rest : Text} {value : Sample} {c : CodePoint} {n : Nat}

/-! ### What is left of a text -/

theorem after_digits_suffix (t : Text) : afterDigits t <:+ t := List.dropWhile_suffix _

theorem whole_part_suffix {digits : List Nat} (taken : wholePart? t = some (digits, left)) :
    left <:+ t := by
  unfold wholePart? at taken
  split at taken
  · cases taken
    exact List.suffix_cons _ _
  · split at taken
    · cases taken
    · cases taken
      exact after_digits_suffix t

theorem fraction_suffix {digits : List Nat} (taken : fraction? t = some (digits, left)) : left <:+ t := by
  unfold fraction? at taken
  split at taken
  · split at taken
    · cases taken
    · cases taken
      exact (after_digits_suffix _).trans (List.suffix_cons _ _)
  · cases taken

theorem exponent_sign_suffix (t : Text) : (exponentSign t).2 <:+ t := by
  unfold exponentSign
  split
  · exact List.suffix_cons _ _
  · exact List.suffix_cons _ _
  · exact List.suffix_rfl

theorem exponent_suffix {exponent : Int} (taken : exponent? t = some (exponent, left)) : left <:+ t := by
  unfold exponent? at taken
  split at taken
  · split at taken
    · dsimp only at taken
      split at taken
      · cases taken
      · cases taken
        exact ((after_digits_suffix _).trans (exponent_sign_suffix _)).trans (List.suffix_cons _ _)
    · cases taken
  · cases taken

theorem split_fraction_suffix (t : Text) : (splitFraction t).2.1 <:+ t := by
  unfold splitFraction
  split
  · rename_i taken
    exact fraction_suffix taken
  · exact List.suffix_rfl

theorem split_exponent_suffix (t : Text) : (splitExponent t).2.1 <:+ t := by
  unfold splitExponent
  split
  · rename_i taken
    exact exponent_suffix taken
  · exact List.suffix_rfl

theorem magnitude_suffix {negative : Bool} {read : Except Stop Sample}
    (taken : readMagnitude negative t = some (read, left)) : left <:+ t := by
  unfold readMagnitude at taken
  split at taken
  · cases taken
  · rename_i whole rest found
    have ends := ((split_exponent_suffix _).trans (split_fraction_suffix rest)).trans (whole_part_suffix found)
    dsimp only at taken
    split at taken <;> cases taken <;> exact ends

theorem number_suffix {read : Except Stop Sample} (taken : readNumber t = some (read, left)) :
    left <:+ t := by
  unfold readNumber at taken
  split at taken
  · exact (magnitude_suffix taken).trans (List.suffix_cons _ _)
  · exact magnitude_suffix taken

theorem word_suffix (taken : readWord t = some (value, left)) : left <:+ t := by
  unfold readWord at taken
  split at taken
  · cases taken
    exact List.drop_suffix _ t
  · cases taken

theorem plain_suffix {rest : Rest t} (read : readPlain t = .ok (value, rest)) : rest.1 <:+ t := by
  unfold readPlain at read
  split at read
  · rename_i taken
    cases read
    exact word_suffix taken
  · split at read
    · cases read
    · cases read
    · rename_i taken
      cases read
      exact number_suffix taken

/-! ### Whole numbers read back -/

/-- No digit comes first. -/
def DigitsEnd (t : Text) : Prop := ∀ c ∈ t.head?, c.isAsciiDigit = false

/-- Nothing that a number could go on with comes first. -/
def NumberEnds (t : Text) : Prop :=
  ∀ c ∈ t.head?, c.isAsciiDigit = false ∧ c ≠ .scalar '.' ∧ c ≠ .scalar 'e' ∧ c ≠ .scalar 'E'

/-- The values of the digits in a text. -/
def digitValues (t : Text) : List Nat := t.filterMap (·.digit? 10)

theorem digits_end (ends : NumberEnds rest) : DigitsEnd rest := fun c first => (ends c first).1

theorem digit_value {character : Char} (digit : character.isDigit = true) :
    (scalar character).digit? 10 = some (character.toNat - '0'.toNat) := by
  have range : '0' ≤ character ∧ character ≤ '9' := by
    simpa [Char.isDigit, Char.le_def] using digit
  have low : '0'.toNat ≤ character.toNat := range.1
  have high : character.toNat ≤ '9'.toNat := range.2
  have small : character.toNat - '0'.toNat < 10 := by
    have ends : '9'.toNat = '0'.toNat + 9 := by decide
    omega
  simp only [digit?, range, and_self, if_true]
  exact if_pos (decide_eq_true small)

theorem is_digit {character : Char} (digit : character.isDigit = true) :
    (scalar character).isAsciiDigit = true := by
  rw [isAsciiDigit, digit_value digit]
  rfl

theorem written_digit {character : Char} (written : character ∈ Nat.toDigits 10 n) :
    character.isDigit = true := Nat.isDigit_of_mem_toDigits (by decide) (by decide) written

theorem nat_all_digits (n : Nat) : ∀ c ∈ Text.ofNat n, c.isAsciiDigit = true := by
  intro c listed
  obtain ⟨character, written, rfl⟩ := List.mem_map.mp listed
  exact is_digit (written_digit written)

/-- Digits are read off up to where they end. -/
theorem digits_read (each : ∀ c ∈ t, c.isAsciiDigit = true) (ends : DigitsEnd rest) :
    leadingDigits (t ++ rest) = digitValues t ∧ afterDigits (t ++ rest) = rest := by
  have noMore : rest.takeWhile isAsciiDigit = [] ∧ rest.dropWhile isAsciiDigit = rest := by
    cases rest with
    | nil => exact ⟨rfl, rfl⟩
    | cons c rest => simp [ends c rfl]
  constructor
  · rw [leadingDigits, List.takeWhile_append_of_pos each, noMore.1, List.append_nil, digitValues]
  · rw [afterDigits, List.dropWhile_append_of_pos each, noMore.2]

/-- The digits of a number give it again. -/
theorem nat_digit_values (n : Nat) : Text.readDigits 10 (digitValues (Text.ofNat n)) = n ∧
    (digitValues (Text.ofNat n)).length = (Nat.toDigits 10 n).length := by
  have values : digitValues (Text.ofNat n) =
      (Nat.toDigits 10 n).map fun character => character.toNat - '0'.toNat := by
    rw [digitValues, Text.ofNat, List.filterMap_map, ← List.filterMap_eq_map]
    exact List.filterMap_congr fun character written => digit_value (written_digit written)
  rw [values, List.length_map, Text.readDigits, List.foldl_map]
  refine ⟨?_, rfl⟩
  simpa only [Nat.ofDigitChars_eq_foldl, Nat.mul_comm 10] using
    (Nat.ofDigitChars_ten_toDigits : Nat.ofDigitChars 10 (Nat.toDigits 10 n) 0 = n)

/-- No number but zero begins with a zero. -/
theorem first_digit (positive : 0 < n) : ∃ first others, Nat.toDigits 10 n = first :: others ∧ first ≠ '0' := by
  induction n using Nat.strongRecOn with
  | ind n ih =>
    by_cases small : n < 10
    · refine ⟨_, _, Nat.toDigits_of_lt_base small, ?_⟩
      interval_cases n <;> decide
    · obtain ⟨first, others, digits, apart⟩ := ih (n / 10) (by omega) (by omega)
      rw [Nat.toDigits_of_base_le (by decide) (Nat.le_of_not_lt small), digits]
      exact ⟨first, _, rfl, apart⟩

theorem whole_part_read (n : Nat) (ends : DigitsEnd rest) :
    wholePart? (Text.ofNat n ++ rest) = some (digitValues (Text.ofNat n), rest) := by
  rcases Nat.eq_zero_or_pos n with rfl | positive
  · rfl
  · obtain ⟨first, others, shape, apart⟩ := first_digit positive
    obtain ⟨read, left⟩ := digits_read (nat_all_digits n) ends
    have noZero : ∀ left, Text.ofNat n ++ rest ≠ .scalar '0' :: left := by
      intro left same
      rw [Text.ofNat, shape] at same
      cases same
      exact apart rfl
    rw [wholePart?.eq_2 _ noZero, read, left]
    cases digits : digitValues (Text.ofNat n) with
    | nil =>
      have count := (nat_digit_values n).2
      simp [digits, shape] at count
    | cons => rfl

theorem split_nothing (ends : NumberEnds rest) :
    splitFraction rest = ([], rest, false) ∧ splitExponent rest = (0, rest, false) := by
  cases rest with
  | nil => exact ⟨rfl, rfl⟩
  | cons c rest =>
    obtain ⟨_, noPoint, noSmall, noLarge⟩ := ends c rfl
    constructor
    · have none : fraction? (c :: rest) = none := by
        unfold fraction?
        split
        · rename_i same
          cases same
          exact absurd rfl noPoint
        · rfl
      rw [splitFraction, none]
    · have none : exponent? (c :: rest) = none := by
        unfold exponent?
        split
        · rename_i same
          cases same
          rw [if_neg]
          rintro (rfl | rfl)
          · exact noSmall rfl
          · exact noLarge rfl
        · rfl
      rw [splitExponent, none]

theorem few_digits {i : Int} :
    Decimal.isTooLong i = false ↔ i.natAbs < 10 ^ Decimal.digitLimit := by
  rw [Decimal.isTooLong, decide_eq_false_iff_not, Nat.not_le, Nat.pow_eq]

/-- A number has no more digits than are read. -/
theorem digits_fit (fits : n < 10 ^ Decimal.digitLimit) : (Nat.toDigits 10 n).length ≤ Decimal.digitLimit :=
  (Nat.length_toDigits_le_iff (by decide) (by decide)).mpr fits

theorem magnitude_read (negative : Bool) (fits : n < 10 ^ Decimal.digitLimit) (ends : NumberEnds rest) :
    readMagnitude negative (Text.ofNat n ++ rest) =
      some (.ok (.int (if negative then -Int.ofNat n else Int.ofNat n)), rest) := by
  obtain ⟨value, count⟩ := nat_digit_values n
  obtain ⟨noFraction, noExponent⟩ := split_nothing ends
  have fits : ¬ (digitValues (Text.ofNat n)).length > Decimal.digitLimit :=
    Nat.not_lt.mpr (count ▸ digits_fit fits)
  simp only [readMagnitude, whole_part_read n (digits_end ends), noFraction, noExponent, Bool.or_self,
    Bool.false_eq_true, if_false, wholeNumber, fits, value]

theorem nat_opens (n : Nat) : ∃ first others, Text.ofNat n = first :: others ∧ first.isAsciiDigit = true := by
  obtain ⟨character, others, shape⟩ := List.exists_cons_of_ne_nil (Nat.toDigits_ne_nil (n := n) (b := 10))
  refine ⟨.scalar character, others.map .scalar, by rw [Text.ofNat, shape]; rfl, ?_⟩
  exact is_digit (written_digit (shape ▸ List.mem_cons_self))

theorem digit_no_sign (digit : c.isAsciiDigit = true) : c ≠ .scalar '-' := by
  rintro rfl
  cases digit

/-- A whole number begins with a digit, but for a sign. -/
theorem int_opens (i : Int) :
    ∃ first ∈ (Text.ofInt i).find? (· ≠ .scalar '-'), first.isAsciiDigit = true := by
  have opens (n : Nat) : ∃ first ∈ (Text.ofNat n).find? (· ≠ .scalar '-'), first.isAsciiDigit = true := by
    obtain ⟨first, others, shape, digit⟩ := nat_opens n
    exact ⟨first, by simp [shape, digit_no_sign digit], digit⟩
  cases i with
  | ofNat n => exact opens n
  | negSucc n => exact opens (n + 1)

/-- None of the words does. -/
theorem word_opens : ∀ word ∈ wordValues.map (·.1),
    ∃ first ∈ word.find? (· ≠ .scalar '-'), first.isAsciiDigit = false := by
  intro word listed
  simp only [wordValues, List.map_cons, List.map_nil, List.mem_cons, List.not_mem_nil, or_false] at listed
  rcases listed with rfl | rfl | rfl | rfl | rfl | rfl <;> exact ⟨_, rfl, rfl⟩

/-- What begins with a digit, but for a sign, is no word. -/
theorem no_word (opens : ∃ first ∈ t.find? (· ≠ .scalar '-'), first.isAsciiDigit = true) (rest : Text) :
    readWord (t ++ rest) = none := by
  obtain ⟨digit, found, isDigit⟩ := opens
  have absent : (wordValues.find? fun word => (t ++ rest).startsWith word.1) = none := by
    refine List.find?_eq_none.mpr fun word listed starts => ?_
    obtain ⟨after, shape⟩ := List.isPrefixOf_iff_prefix.mp starts
    obtain ⟨letter, other, noDigit⟩ := word_opens word.1 (List.mem_map_of_mem listed)
    have same := congrArg (List.find? (· ≠ .scalar '-')) shape
    rw [List.find?_append, List.find?_append, found, other] at same
    cases same
    cases isDigit.symm.trans noDigit
  rw [readWord, absent]

theorem int_read (i : Int) (fits : i.natAbs < 10 ^ Decimal.digitLimit) (ends : NumberEnds rest) :
    readNumber (Text.ofInt i ++ rest) = some (.ok (.int i), rest) := by
  cases i with
  | ofNat n =>
    have noSign : ∀ left, Text.ofInt (.ofNat n) ++ rest ≠ .scalar '-' :: left := by
      intro left same
      obtain ⟨first, others, shape, digit⟩ := nat_opens n
      rw [Text.ofInt, shape] at same
      cases same
      exact digit_no_sign digit rfl
    rw [readNumber.eq_2 _ noSign]
    exact magnitude_read false fits ends
  | negSucc n => exact magnitude_read true fits ends

/-- A whole number is read back from its digits. -/
theorem plain_int_read (i : Int) (fits : Decimal.isTooLong i = false) (ends : NumberEnds rest) :
    ∃ left, readPlain (Text.ofInt i ++ rest) = .ok (.int i, left) ∧ left.1 = rest := by
  have read := int_read i (few_digits.mp fits) ends
  unfold readPlain
  split
  · rename_i found
    cases (no_word (int_opens i) rest).symm.trans found
  · split
    · rename_i found
      cases read.symm.trans found
    · rename_i found
      cases read.symm.trans found
    · rename_i found
      cases read.symm.trans found
      exact ⟨_, rfl, rfl⟩

end ClassMold.Numerals
