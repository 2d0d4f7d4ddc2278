import Mathlib.Data.List.Induction
import ClassMold.Proofs.Sample.Numerals

/-! How numbers are written. A number has a sign, a whole part without needless zeros, and it may
have digits behind a point and an exponent; with one of these two it is a float. The grammar does
not mention the reader, and the reader keeps to it in both directions: what it takes for a number
is one, and it takes every number to its end if nothing behind could go on with it. -/
namespace ClassMold.NumberForms
open Sample Numerals CodePoint

/-- One digit or more. -/
def IsDigits (t : Text) : Prop := t ≠ [] ∧ ∀ c ∈ t, c.isAsciiDigit = true

/-- The number that digits write. -/
def numberOf (digits : Text) : Nat := Text.readDigits 10 (digitValues digits)

/-- A number with its sign. -/
def withSign (negative : Bool) (n : Nat) : Int := if negative then -Int.ofNat n else Int.ofNat n

/-- The digits of a number behind its sign. -/
def signed (negative : Bool) (digits : Text) : Text := if negative then .scalar '-' :: digits else digits

/-- What stands behind the digits of a whole part, from the point on, and the digits there. -/
inductive Fraction : Text → Text → Prop where
  | absent : Fraction [] []
  | present {digits : Text} (some : IsDigits digits) : Fraction (.scalar '.' :: digits) digits

/-- The signs of an exponent, and whether they make it negative. -/
def exponentSigns : List (Text × Bool) := [("", false), ("+", false), ("-", true)]

/-- An exponent with its letter, and its number. -/
inductive Exponent : Text → Int → Prop where
  | absent : Exponent [] 0
  | present {letter : Char} {sign digits : Text} {negative : Bool} (marked : letter = 'e' ∨ letter = 'E')
      (sign_ : (sign, negative) ∈ exponentSigns) (some : IsDigits digits) :
      Exponent (.scalar letter :: (sign ++ digits)) (withSign negative (numberOf digits))

/-- A text that writes a number, and its value. The whole part has the digits that any number is
written with, so it begins with zero only if it is zero. -/
inductive IsNumber : Text → Sample → Prop where
  | integer (negative : Bool) (n : Nat) :
      IsNumber (signed negative (Text.ofNat n)) (.int (withSign negative n))
  | float (negative : Bool) (n : Nat) {fraction digits exponent : Text} {power : Int}
      (behind : Fraction fraction digits) (raised : Exponent exponent power)
      (some : fraction ++ exponent ≠ []) :
      IsNumber (signed negative (Text.ofNat n ++ (fraction ++ exponent)))
        (.float (Binary64.ofDecimal negative (numberOf (Text.ofNat n ++ digits)) (power - digits.length)))

variable {t u left rest digits : Text} {value : Sample} {c : CodePoint} {negative : Bool} {power : Int}

/-! ### Digits -/

theorem digit_of_value (digit : c.isAsciiDigit = true) :
    ∃ v < 10, c.digit? 10 = some v ∧ c = .scalar (Nat.digitChar v) := by
  obtain ⟨v, found⟩ := Option.isSome_iff_exists.mp digit
  cases c with
  | surrogate offset => cases found
  | scalar character =>
    obtain ⟨from_, small⟩ := Option.filter_eq_some_iff.mp found
    have small : v < 10 := of_decide_eq_true small
    have number : character.toNat = v + 0x30 := by
      split_ifs at from_ with decimal lower upper <;> cases from_
      · have low : 0x30 ≤ character.toNat := decimal.1
        omega
      · omega
      · omega
    refine ⟨v, small, found, congrArg _ (Char.toNat_inj.mp (number.trans ?_))⟩
    interval_cases v <;> rfl

theorem digit_values_length (each : ∀ c ∈ t, c.isAsciiDigit = true) : (digitValues t).length = t.length := by
  rw [digitValues, List.length_filterMap_eq_countP, List.countP_eq_length]
  exact each

theorem digit_values_append (t u : Text) : digitValues (t ++ u) = digitValues t ++ digitValues u :=
  List.filterMap_append

/-- Digits that do not begin with zero are those that their number is written with. -/
theorem digits_of_number (each : ∀ c ∈ t, c.isAsciiDigit = true) (some : t ≠ [])
    (noZero : ∀ left, t ≠ .scalar '0' :: left) : Text.ofNat (numberOf t) = t := by
  induction t using List.reverseRecOn with
  | nil => exact absurd rfl some
  | append_singleton t c ih =>
    obtain ⟨others, last⟩ := List.forall_mem_append.mp each
    obtain ⟨v, small, own, rfl⟩ := digit_of_value (last c List.mem_cons_self)
    have number : numberOf (t ++ [.scalar (Nat.digitChar v)]) = numberOf t * 10 + v := by
      simp [numberOf, digitValues, Text.readDigits, own]
    rw [number]
    rcases List.eq_nil_or_concat' t with rfl | ⟨front, end_, shape⟩
    · have alone : numberOf [] * 10 + v = v := Nat.zero_add v
      rw [alone, Text.ofNat, Nat.toDigits_of_lt_base small]
      rfl
    · have nonempty : t ≠ [] := by simp [shape]
      have digits := ih others nonempty fun left same => noZero (left ++ [_]) (by rw [same]; rfl)
      have positive : 0 < numberOf t := by
        refine Nat.pos_of_ne_zero fun zero => ?_
        rw [zero] at digits
        exact noZero _ (by rw [← digits]; rfl)
      have quotient : (numberOf t * 10 + v) / 10 = numberOf t := by omega
      have remainder : (numberOf t * 10 + v) % 10 = v := by omega
      rw [Text.ofNat, Nat.toDigits_of_base_le (by decide) (by omega), quotient, remainder,
        List.map_append]
      exact congrArg (· ++ _) digits

/-- The digits at the start of a text, if it has some there. -/
theorem digits_split (found : leadingDigits t ≠ []) :
    ∃ u, IsDigits u ∧ t = u ++ afterDigits t ∧ leadingDigits t = digitValues u := by
  refine ⟨t.takeWhile isAsciiDigit, ⟨fun none => found ?_, List.all_eq_true.mp List.all_takeWhile⟩,
    List.takeWhile_append_dropWhile.symm, rfl⟩
  rw [leadingDigits, none]
  rfl

theorem digits_nonempty (some : IsDigits digits) : digitValues digits ≠ [] := by
  intro none
  have count := digit_values_length some.2
  rw [none] at count
  exact some.1 (List.length_eq_zero_iff.mp count.symm)

theorem digits_start (some : IsDigits digits) (rest : Text) :
    ∃ c others, digits ++ rest = c :: others ∧ c.isAsciiDigit = true := by
  obtain ⟨c, others, rfl⟩ := List.exists_cons_of_ne_nil some.1
  exact ⟨c, others ++ rest, rfl, some.2 c List.mem_cons_self⟩

/-! ### What is taken for a number is one -/

theorem whole_part_written {values : List Nat} (taken : wholePart? t = some (values, left)) :
    ∃ n, t = Text.ofNat n ++ left ∧ values = digitValues (Text.ofNat n) := by
  unfold wholePart? at taken
  split at taken
  · cases taken
    exact ⟨0, rfl, rfl⟩
  · rename_i noZero
    split at taken
    · cases taken
    · rename_i found
      cases taken
      obtain ⟨u, ⟨some, each⟩, split_, values⟩ := digits_split found
      have number := digits_of_number each some fun left same =>
        noZero (left ++ afterDigits t) (split_.trans (congrArg (· ++ _) same))
      exact ⟨numberOf u, number.symm ▸ split_, number.symm ▸ values⟩

theorem fraction_written (t : Text) : ∃ text digits, Fraction text digits ∧
    t = text ++ (splitFraction t).2.1 ∧ (splitFraction t).1 = digitValues digits ∧
    (splitFraction t).1.length = digits.length ∧ ((splitFraction t).2.2 = true ↔ text ≠ []) := by
  unfold splitFraction
  cases taken : fraction? t with
  | none => exact ⟨[], [], .absent, rfl, rfl, rfl, by simp⟩
  | some parts =>
    unfold fraction? at taken
    split at taken
    · split at taken
      · cases taken
      · rename_i found
        cases taken
        obtain ⟨u, some, split_, values⟩ := digits_split found
        refine ⟨_, u, .present some, congrArg _ split_, values, ?_, by simp⟩
        exact values ▸ digit_values_length some.2
    · cases taken

theorem exponent_sign_written (t : Text) :
    ∃ sign, (sign, (exponentSign t).1) ∈ exponentSigns ∧ t = sign ++ (exponentSign t).2 := by
  unfold exponentSign
  split
  · exact ⟨"-", .tail _ (.tail _ (.head _)), rfl⟩
  · exact ⟨"+", .tail _ (.head _), rfl⟩
  · exact ⟨"", .head _, rfl⟩

theorem exponent_written (t : Text) : ∃ text, Exponent text (splitExponent t).1 ∧
    t = text ++ (splitExponent t).2.1 ∧ ((splitExponent t).2.2 = true ↔ text ≠ []) := by
  unfold splitExponent
  cases taken : exponent? t with
  | none => exact ⟨[], .absent, rfl, by simp⟩
  | some parts =>
    unfold exponent? at taken
    split at taken
    · rename_i letter left
      split at taken
      · rename_i marked
        obtain ⟨sign, listed, behind⟩ := exponent_sign_written left
        dsimp only at taken
        split at taken
        · cases taken
        · rename_i found
          cases taken
          obtain ⟨u, some, split_, values⟩ := digits_split found
          refine ⟨.scalar letter :: (sign ++ u), ?_, ?_, by simp⟩
          · have written := Exponent.present marked listed some
            rwa [withSign, numberOf, ← values] at written
          · rw [List.cons_append, List.append_assoc, ← split_, ← behind]
      · cases taken
    · cases taken

theorem magnitude_written (taken : readMagnitude negative t = some (.ok value, rest)) :
    ∃ text, IsNumber (signed negative text) value ∧ t = text ++ rest ∧
      ∀ i, value = .int i → (Text.ofNat i.natAbs).length ≤ Decimal.digitLimit := by
  unfold readMagnitude at taken
  split at taken
  · cases taken
  · rename_i values left found
    obtain ⟨n, start, rfl⟩ := whole_part_written found
    obtain ⟨fraction, digits, behind, shape, fractionValues, count, hasFraction⟩ := fraction_written left
    obtain ⟨exponent, raised, shape', hasExponent⟩ := exponent_written (splitFraction left).2.1
    dsimp only at taken
    split at taken
    · rename_i either
      have some : fraction ++ exponent ≠ [] := by
        rcases Bool.or_eq_true_iff.mp either with has | has
        · exact List.append_ne_nil_of_left_ne_nil (hasFraction.mp has) _
        · exact List.append_ne_nil_of_right_ne_nil _ (hasExponent.mp has)
      cases taken
      refine ⟨Text.ofNat n ++ (fraction ++ exponent), ?_, ?_, nofun⟩
      · have number := IsNumber.float negative n behind raised some
        rwa [numberOf, digit_values_append, ← fractionValues, ← count] at number
      · rw [List.append_assoc, List.append_assoc, ← shape', ← shape, start]
    · rename_i neither
      simp only [Bool.not_eq_true, Bool.or_eq_false_iff] at neither
      have noFraction : fraction = [] := by
        by_contra some
        exact absurd (hasFraction.mpr some) (Bool.eq_false_iff.mp neither.1)
      have noExponent : exponent = [] := by
        by_contra some
        exact absurd (hasExponent.mpr some) (Bool.eq_false_iff.mp neither.2)
      rw [noFraction] at shape
      rw [noExponent] at shape'
      unfold wholeNumber at taken
      split at taken
      · cases taken
      · rename_i few
        cases taken
        obtain ⟨value, length⟩ := nat_digit_values n
        rw [value]
        refine ⟨Text.ofNat n, .integer negative n, ?_, ?_⟩
        · rw [start]
          exact congrArg _ (shape.trans shape')
        · rintro i same
          cases same
          have size : (if negative = true then -Int.ofNat n else Int.ofNat n).natAbs = n := by
            split <;> simp
          rw [size, Text.ofNat, List.length_map, ← length]
          exact Nat.le_of_not_lt few

/-- What the reader takes for a number is one, and an integer has not too many digits. -/
theorem number_written (taken : readNumber t = some (.ok value, rest)) :
    ∃ text, IsNumber text value ∧ t = text ++ rest ∧
      ∀ i, value = .int i → (Text.ofNat i.natAbs).length ≤ Decimal.digitLimit := by
  unfold readNumber at taken
  split at taken
  · obtain ⟨text, number, rfl, few⟩ := magnitude_written taken
    exact ⟨_, number, rfl, few⟩
  · obtain ⟨text, number, rfl, few⟩ := magnitude_written taken
    exact ⟨_, number, rfl, few⟩

/-! ### Every number is taken to its end -/

/-- Nothing that the digits of a number could go on with comes first, though an exponent may. -/
def DecimalsEnd (t : Text) : Prop := ∀ c ∈ t.head?, c.isAsciiDigit = false ∧ c ≠ .scalar '.'

theorem exponent_starts (raised : Exponent t power) (ends : NumberEnds rest) : DecimalsEnd (t ++ rest) := by
  intro c first
  cases raised with
  | absent => exact ⟨(ends c first).1, (ends c first).2.1⟩
  | present marked sign some =>
    cases first
    rcases marked with rfl | rfl <;> decide

theorem fraction_starts (behind : Fraction t digits) (ends : DecimalsEnd rest) : DigitsEnd (t ++ rest) := by
  intro c first
  cases behind with
  | absent => exact (ends c first).1
  | present some =>
    cases first
    decide

theorem fraction_taken (behind : Fraction t digits) (ends : DecimalsEnd rest) :
    splitFraction (t ++ rest) = (digitValues digits, rest, decide (t ≠ [])) := by
  cases behind with
  | absent =>
    have none : fraction? rest = none := by
      unfold fraction?
      split
      · exact absurd rfl (ends _ rfl).2
      · rfl
    rw [splitFraction, List.nil_append, none]
    rfl
  | present some =>
    obtain ⟨read, left⟩ := digits_read some.2 fun c first => (ends c first).1
    have taken : fraction? (.scalar '.' :: digits ++ rest) = .some (digitValues digits, rest) := by
      rw [List.cons_append, fraction?, read, left]
      split
      · rename_i none
        exact absurd none (digits_nonempty some)
      · rfl
    rw [splitFraction, taken]
    simp

theorem exponent_sign_read {sign : Text} (listed : (sign, negative) ∈ exponentSigns) (some : IsDigits digits) :
    exponentSign (sign ++ (digits ++ rest)) = (negative, digits ++ rest) := by
  obtain ⟨c, others, shape, digit⟩ := digits_start some rest
  have noSign : (∀ left, digits ++ rest ≠ .scalar '-' :: left) ∧
      ∀ left, digits ++ rest ≠ .scalar '+' :: left := by
    rw [shape]
    constructor <;> rintro left same <;> cases same <;> cases digit
  simp only [exponentSigns, List.mem_cons, Prod.mk.injEq, List.not_mem_nil, or_false] at listed
  rcases listed with ⟨rfl, rfl⟩ | ⟨rfl, rfl⟩ | ⟨rfl, rfl⟩
  · exact exponentSign.eq_3 _ noSign.1 noSign.2
  · rfl
  · rfl

theorem exponent_taken (raised : Exponent t power) (ends : NumberEnds rest) :
    splitExponent (t ++ rest) = (power, rest, decide (t ≠ [])) := by
  cases raised with
  | absent => exact (split_nothing ends).2
  | @present letter sign digits negative marked listed some =>
    obtain ⟨read, left⟩ := digits_read some.2 (digits_end ends)
    have taken : exponent? (.scalar letter :: (sign ++ digits) ++ rest) =
        .some (withSign negative (numberOf digits), rest) := by
      rw [List.cons_append, List.append_assoc, exponent?, if_pos marked,
        exponent_sign_read listed some]
      dsimp only
      rw [read, left]
      split
      · rename_i none
        exact absurd none (digits_nonempty some)
      · rfl
    rw [splitExponent, taken]
    simp

theorem float_read (negative : Bool) (n : Nat) {fraction exponent : Text} (behind : Fraction fraction digits)
    (raised : Exponent exponent power) (either : fraction ++ exponent ≠ []) (ends : NumberEnds rest) :
    readMagnitude negative (Text.ofNat n ++ (fraction ++ (exponent ++ rest))) =
      .some (.ok (.float (Binary64.ofDecimal negative (numberOf (Text.ofNat n ++ digits))
        (power - digits.length))), rest) := by
  have decimals := exponent_starts raised ends
  have either : (decide (fraction ≠ []) || decide (exponent ≠ [])) = true := by
    simpa [imp_iff_not_or] using either
  have count : (digitValues digits).length = digits.length := by
    cases behind with
    | absent => rfl
    | present some => exact digit_values_length some.2
  simp only [readMagnitude, whole_part_read n (fraction_starts behind decimals), fraction_taken behind decimals,
    exponent_taken raised ends, either, if_true, count, numberOf, digit_values_append]

theorem nat_starts (n : Nat) (u : Text) :
    ∃ c others, Text.ofNat n ++ u = c :: others ∧ c.isAsciiDigit = true := by
  obtain ⟨c, others, shape, digit⟩ := nat_opens n
  exact ⟨c, others ++ u, by rw [shape]; rfl, digit⟩

/-- A sign is taken off a number first. -/
theorem sign_read (negative : Bool) (opens : ∃ c others, t = c :: others ∧ c.isAsciiDigit = true) :
    readNumber (signed negative t) = readMagnitude negative t := by
  obtain ⟨c, others, rfl, digit⟩ := opens
  cases negative with
  | true => rfl
  | false =>
    refine readNumber.eq_2 _ fun left same => ?_
    cases same
    exact digit_no_sign digit rfl

theorem signed_append (negative : Bool) (t u : Text) : signed negative t ++ u = signed negative (t ++ u) := by
  cases negative <;> rfl

theorem number_read (number : IsNumber t value)
    (few : ∀ i, value = .int i → (Text.ofNat i.natAbs).length ≤ Decimal.digitLimit) (ends : NumberEnds rest) :
    readNumber (t ++ rest) = some (.ok value, rest) := by
  cases number with
  | integer negative n =>
    have size : (withSign negative n).natAbs = n := by unfold withSign; split <;> simp
    have fits := few _ rfl
    rw [size, Text.ofNat, List.length_map] at fits
    rw [signed_append, sign_read negative (nat_starts n rest)]
    exact magnitude_read negative ((Nat.length_toDigits_le_iff (by decide) (by decide)).mp fits) ends
  | float negative n behind raised some =>
    rw [signed_append, List.append_assoc, List.append_assoc, sign_read negative (nat_starts n _)]
    exact float_read negative n behind raised some ends

theorem number_opens (number : IsNumber t value) :
    ∃ first ∈ t.find? (· ≠ .scalar '-'), first.isAsciiDigit = true := by
  have opens (negative : Bool) (n : Nat) (u : Text) :
      ∃ first ∈ (signed negative (Text.ofNat n ++ u)).find? (· ≠ .scalar '-'), first.isAsciiDigit = true := by
    obtain ⟨c, others, shape, digit⟩ := nat_starts n u
    refine ⟨c, ?_, digit⟩
    cases negative <;> simp [signed, shape, digit_no_sign digit]
  cases number with
  | integer negative n => simpa using opens negative n []
  | float negative n => exact opens negative n _

/-- A number is read to its end, if nothing behind it goes on with it. -/
theorem number_taken (number : IsNumber t value)
    (few : ∀ i, value = .int i → (Text.ofNat i.natAbs).length ≤ Decimal.digitLimit) (ends : NumberEnds rest) :
    ∃ left, readPlain (t ++ rest) = .ok (value, left) ∧ left.1 = rest := by
  have read := number_read number few ends
  unfold readPlain
  split
  · rename_i found
    cases (no_word (number_opens number) rest).symm.trans found
  · split
    · rename_i found
      cases read.symm.trans found
    · rename_i found
      cases read.symm.trans found
    · rename_i found
      cases read.symm.trans found
      exact ⟨_, rfl, rfl⟩

end ClassMold.NumberForms
