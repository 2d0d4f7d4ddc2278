import Mathlib.Data.List.Chain
import Mathlib.Tactic.IntervalCases
import ClassMold.Proofs.Source.StringLiterals
import ClassMold.Proofs.Text.Casing
import ClassMold.Proofs.Text.Printable
import ClassMold.Sample.Reader

/-! How strings are spelled. The reader of strings is told by a relation with a constructor for
each kind of spelling. A surrogate stays alone only where the other half of its pair is not
spelled right behind it, so no text that is read from a file holds the halves of a pair next to
each other; and a text without such halves is read back from its spelling in plain letters. -/
namespace ClassMold.Spelling
open Sample CodePoint Printable Casing

/-! ### The grammar of strings -/

/-- A numeric escape, read behind its `u`: the code point that it writes, and what is left. -/
inductive Escapes : Text → CodePoint → Text → Prop where
  | single {a b c d : CodePoint} {left : Text} {n : Nat} (unit : unit? a b c d = some n)
      (alone : isHighSurrogate n = true → secondHalf? n left = .ok none) (goesOn : left ≠ []) :
      Escapes (a :: b :: c :: d :: left) (.ofNat n) left
  | pair {a b c d e f g h : CodePoint} {left : Text} {high low : Nat} (first : unit? a b c d = some high)
      (isHigh : isHighSurrogate high = true) (second : unit? e f g h = some low)
      (isLow : isLowSurrogate low = true) (goesOn : left ≠ []) :
      Escapes (a :: b :: c :: d :: .scalar '\\' :: .scalar 'u' :: e :: f :: g :: h :: left)
        (joinSurrogates high low) left

/-- A string, read behind its opening quote: the text that it spells, and what is left. -/
inductive Spells : Text → Text → Text → Prop where
  | closed (left : Text) : Spells (.scalar '"' :: left) [] left
  | numeric {left after value rest : Text} {c : CodePoint} (escape : Escapes left c after)
      (more : Spells after value rest) :
      Spells (.scalar '\\' :: .scalar 'u' :: left) (c :: value) rest
  | short {left value rest : Text} {e c : CodePoint} (noNumber : e ≠ .scalar 'u')
      (escape : Sample.shortEscape? e = some c) (more : Spells left value rest) :
      Spells (.scalar '\\' :: e :: left) (c :: value) rest
  | bare {left value rest : Text} {c : CodePoint} (noQuote : c ≠ .scalar '"')
      (noEscape : c ≠ .scalar '\\') (noControl : ¬ c.val < 0x20) (more : Spells left value rest) :
      Spells (c :: left) (c :: value) rest

variable {opening t u value rest after : Text} {c d : CodePoint} {n : Nat}

theorem second_half_found {high : Nat} {left : Rest t} (found : secondHalf? high t = .ok (some (c, left))) :
    ∃ e f g h low, t = .scalar '\\' :: .scalar 'u' :: e :: f :: g :: h :: left.1 ∧
      unit? e f g h = some low ∧ isLowSurrogate low = true ∧ left.1 ≠ [] ∧ c = joinSurrogates high low := by
  unfold secondHalf? at found
  split at found
  · split at found
    · cases found
    · rename_i low other
      split at found
      · rename_i isLow
        simp only [Except.ok.injEq, Option.some.injEq, Prod.mk.injEq] at found
        obtain ⟨rfl, rfl⟩ := found
        exact ⟨_, _, _, _, low, rfl, other, isLow, List.cons_ne_nil _ _, rfl⟩
      · cases found
  · cases found

theorem escape_follows {left : Rest t} (read : readUnicodeEscape t = .ok (c, left)) :
    Escapes t.tail c left.1 := by
  unfold readUnicodeEscape at read
  split at read
  · split at read
    · cases read
    · rename_i unit found
      split at read
      · rename_i high
        split at read
        · cases read
        · rename_i second
          obtain ⟨_, _, _, _, low, shape, other, isLow, goesOn, joined⟩ := second_half_found second
          simp only [Except.ok.injEq, Prod.mk.injEq] at read
          obtain ⟨rfl, rfl⟩ := read
          have paired := Escapes.pair found high other isLow goesOn
          rwa [← shape, ← joined] at paired
        · rename_i alone
          cases read
          exact .single found (fun _ => alone) (List.cons_ne_nil _ _)
      · rename_i other
        cases read
        exact .single found (fun high => absurd high other) (List.cons_ne_nil _ _)
  · cases read

theorem escape_read (escapes : Escapes t c after) :
    ∃ left, readUnicodeEscape (.scalar 'u' :: t) = .ok (c, left) ∧ left.1 = after := by
  cases escapes with
  | single unit alone goesOn =>
    obtain ⟨next, left, rfl⟩ := List.exists_cons_of_ne_nil goesOn
    unfold readUnicodeEscape
    simp only [unit]
    split
    · rename_i high
      simp only [alone high]
      exact ⟨_, rfl, rfl⟩
    · exact ⟨_, rfl, rfl⟩
  | pair first isHigh second isLow goesOn =>
    obtain ⟨next, left, rfl⟩ := List.exists_cons_of_ne_nil goesOn
    unfold readUnicodeEscape
    simp only [first, isHigh, if_true]
    unfold secondHalf?
    simp only [second, isLow, if_true]
    exact ⟨_, rfl, rfl⟩

theorem string_follows (opening t : Text) :
    ∀ value left, readString opening t = .ok (value, left) → Spells t value left.1 := by
  fun_induction readString opening t
  all_goals intro value left read
  case case2 left =>
    cases read
    exact .closed left
  case case6 escaped _ _ more ih =>
    cases read
    exact .numeric (escape_follows escaped) (ih _ _ more)
  case case9 noNumber _ escape _ _ more ih =>
    cases read
    exact .short noNumber escape (ih _ _ more)
  case case12 following noQuote noEnd noNumber noEscape noControl _ _ more ih =>
    cases read
    refine .bare noQuote ?_ noControl (ih _ _ more)
    rintro rfl
    cases following with
    | nil => exact noEnd rfl rfl
    | cons e left => exact noEscape e left rfl rfl
  all_goals cases read

theorem string_read (opening : Text) (spells : Spells t value rest) :
    ∃ left, readString opening t = .ok (value, left) ∧ left.1 = rest := by
  induction spells with
  | closed left =>
    unfold readString
    exact ⟨_, rfl, rfl⟩
  | numeric escape more ih =>
    obtain ⟨start, escaped, rfl⟩ := escape_read escape
    obtain ⟨last, read, rfl⟩ := ih
    unfold readString
    simp only [escaped, read]
    exact ⟨_, rfl, rfl⟩
  | @short left value rest e c noNumber escape more ih =>
    obtain ⟨last, read, rfl⟩ := ih
    rw [readString.eq_5 _ e left noNumber]
    simp only [escape, read]
    exact ⟨_, rfl, rfl⟩
  | @bare left value rest c noQuote noEscape noControl more ih =>
    obtain ⟨last, read, rfl⟩ := ih
    rw [readString.eq_6 _ c left noQuote (fun escape => absurd escape noEscape)
      (fun _ escape => absurd escape noEscape) (fun _ _ escape => absurd escape noEscape)]
    simp only [noControl, if_false, read]
    exact ⟨_, rfl, rfl⟩

/-! ### What is left of a text -/

theorem escape_suffix (escapes : Escapes t c rest) : rest <:+ t := by
  cases escapes with
  | @single a b c d _ n unit alone goesOn => exact List.suffix_append [a, b, c, d] rest
  | @pair a b c d e f g h _ high low =>
    exact List.suffix_append [a, b, c, d, .scalar '\\', .scalar 'u', e, f, g, h] rest

theorem spelled_suffix (spells : Spells t value rest) : rest <:+ t := by
  induction spells with
  | closed left => exact List.suffix_cons _ left
  | @numeric left after value rest c escape more ih =>
    have inner := ih.trans (escape_suffix escape)
    exact inner.trans ((List.suffix_cons (.scalar 'u') left).trans (List.suffix_cons _ _))
  | @short left value rest e c noNumber escape more ih =>
    exact ih.trans ((List.suffix_cons e left).trans (List.suffix_cons _ _))
  | bare noQuote noEscape noControl more ih => exact ih.trans (List.suffix_cons _ _)

theorem printable_suffix (printable : IsPrintable t) (ends : u <:+ t) : IsPrintable u :=
  printable_part printable fun _ listed => ends.mem listed

/-! ### Halves of pairs -/

/-- The two halves of a pair, one behind the other. -/
def Halves (c d : CodePoint) : Prop := isHighSurrogate c.val = true ∧ isLowSurrogate d.val = true

instance (c d : CodePoint) : Decidable (Halves c d) := inferInstanceAs (Decidable (_ ∧ _))

/-- A text without the two halves of a pair next to each other. -/
def Whole (t : Text) : Prop := t.IsChain fun c d => ¬ Halves c d

theorem whole_cons : Whole (c :: t) ↔ (∀ d ∈ t.head?, ¬ Halves c d) ∧ Whole t := List.isChain_cons

theorem high_range : isHighSurrogate n = true ↔ 0xD800 ≤ n ∧ n < 0xDC00 := by
  simp [isHighSurrogate]

theorem low_range : isLowSurrogate n = true ↔ 0xDC00 ≤ n ∧ n < 0xE000 := by
  simp [isLowSurrogate]

theorem scalar_no_half (character : Char) : isHighSurrogate (val (.scalar character)) = false ∧
    isLowSurrogate (val (.scalar character)) = false := by
  have valid : character.toNat < 0xD800 ∨ 0xDFFF < character.toNat ∧ character.toNat < 0x110000 :=
    character.valid
  rw [← Bool.not_eq_true, ← Bool.not_eq_true, high_range, low_range, val]
  omega

theorem plain_no_half (plain : Utf8.isSurrogate c = false) :
    isHighSurrogate c.val = false ∧ isLowSurrogate c.val = false := by
  cases c with
  | scalar character => exact scalar_no_half character
  | surrogate offset => cases plain

theorem joined_no_half {high low : Nat} : isHighSurrogate (joinSurrogates high low).val = false ∧
    isLowSurrogate (joinSurrogates high low).val = false := by
  rw [← Bool.not_eq_true, ← Bool.not_eq_true, high_range, low_range, joinSurrogates]
  rcases val_of_nat (0x10000 + (high - 0xD800) * 0x400 + (low - 0xDC00)) with same | replaced <;> omega

theorem short_no_half {e : CodePoint} (escape : Sample.shortEscape? e = some c) :
    isHighSurrogate c.val = false ∧ isLowSurrogate c.val = false := by
  unfold Sample.shortEscape? at escape
  split at escape <;> cases escape <;> exact scalar_no_half _

/-- A text in which no surrogate stands alone is whole. -/
theorem printable_whole (printable : IsPrintable t) : Whole t := by
  induction t with
  | nil => exact .nil
  | cons c t ih =>
    obtain ⟨plain, rest⟩ := printable_cons.mp printable
    exact whole_cons.mpr ⟨fun d _ halves => by simp [(plain_no_half plain).1, Halves] at halves, ih rest⟩

/-- Where no second half of a pair is written next, none is spelled next either. -/
theorem no_low_next (spells : Spells t value rest) (printable : IsPrintable t)
    (alone : secondHalf? n t = .ok none) : ∀ d ∈ value.head?, isLowSurrogate d.val = false := by
  intro d first
  cases spells with
  | closed left => cases first
  | numeric escape more =>
    cases first
    cases escape with
    | @single _ _ _ _ _ low unit _ goesOn =>
      obtain ⟨next, left, rfl⟩ := List.exists_cons_of_ne_nil goesOn
      simp only [secondHalf?, unit] at alone
      split at alone
      · cases alone
      · rename_i noLow
        rcases val_of_nat low with same | replaced
        · rw [same]
          exact Bool.eq_false_iff.mpr noLow
        · rw [replaced]
          rfl
    | pair => exact joined_no_half.2
  | short noNumber escape more =>
    cases first
    exact (short_no_half escape).2
  | bare noQuote noEscape noControl more =>
    cases first
    exact (plain_no_half (printable_cons.mp printable).1).2

/-- What a string in a decoded text spells is whole: where a first half stays alone, no second half
follows it, and every other escape writes no half at all. -/
theorem spelled_whole (spells : Spells t value rest) (printable : IsPrintable t) : Whole value := by
  induction spells with
  | closed left => exact .nil
  | @numeric left after value rest c escape more ih =>
    have inner := printable_suffix (printable_cons.mp (printable_cons.mp printable).2).2
      (escape_suffix escape)
    refine whole_cons.mpr ⟨fun d first halves => ?_, ih inner⟩
    cases escape with
    | @single _ _ _ _ _ n unit alone goesOn =>
      rcases val_of_nat n with same | replaced
      · have high : isHighSurrogate n = true := same ▸ halves.1
        have next := no_low_next more inner (alone high) d first
        exact absurd halves.2 (Bool.eq_false_iff.mp next)
      · exact absurd (replaced ▸ halves.1) (by decide)
    | pair => exact absurd halves.1 (Bool.eq_false_iff.mp joined_no_half.1)
  | short noNumber escape more ih =>
    refine whole_cons.mpr ⟨fun d _ halves => ?_, ih (printable_cons.mp (printable_cons.mp printable).2).2⟩
    exact absurd halves.1 (Bool.eq_false_iff.mp (short_no_half escape).1)
  | bare noQuote noEscape noControl more ih =>
    obtain ⟨plain, others⟩ := printable_cons.mp printable
    refine whole_cons.mpr ⟨fun d _ halves => ?_, ih others⟩
    exact absurd halves.1 (Bool.eq_false_iff.mp (plain_no_half plain).1)

/-! ### Plain letters read back -/

theorem hex_digit_read (k : Nat) (inside : k < 16) : (scalar (Nat.digitChar k)).digit? 16 = some k := by
  interval_cases k <;> decide

/-- A unit is written in four digits, whatever zeros it begins with. -/
theorem hex_four (inside : n < 0x10000) :
    Text.hex 4 n = [n / 0x1000, n / 0x100 % 16, n / 16 % 16, n % 16].map fun k => scalar (Nat.digitChar k) := by
  have last (k : Nat) (small : k < 16) : Nat.toDigits 16 k = [Nat.digitChar (k % 16)] := by
    rw [Nat.mod_eq_of_lt small]
    exact Nat.toDigits_of_lt_base small
  have next (k : Nat) (large : ¬ k < 16) :
      Nat.toDigits 16 k = Nat.toDigits 16 (k / 16) ++ [Nat.digitChar (k % 16)] :=
    Nat.toDigits_of_base_le (by decide) (Nat.le_of_not_lt large)
  have second : n / 0x100 = n / 16 / 16 := by omega
  have first : n / 0x1000 = n / 16 / 16 / 16 := by omega
  by_cases one : n < 16
  · have gone : n / 16 = 0 := by omega
    rw [Text.hex, last n one, second, first, gone]
    rfl
  by_cases two : n / 16 < 16
  · have gone : n / 16 / 16 = 0 := by omega
    rw [Text.hex, next n one, last _ two, second, first, gone]
    rfl
  by_cases three : n / 16 / 16 < 16
  · have gone : n / 16 / 16 / 16 = 0 := by omega
    rw [Text.hex, next n one, next _ two, last _ three, second, first, gone]
    rfl
  · have small : n / 16 / 16 / 16 < 16 := by omega
    have kept := Nat.mod_eq_of_lt small
    rw [Text.hex, next n one, next _ two, next _ three, last _ small, second, first, kept]
    rfl

/-- The four digits of a unit tell its number. -/
theorem hex_read (inside : n < 0x10000) :
    ∃ a b c d, Text.hex 4 n = [a, b, c, d] ∧ unit? a b c d = some n := by
  refine ⟨_, _, _, _, hex_four inside, ?_⟩
  simp only [unit?, hex_digit_read _ (Nat.div_lt_of_lt_mul inside : n / 0x1000 < 16),
    hex_digit_read _ (Nat.mod_lt _ (by decide : 0 < 16)), Option.bind_eq_bind, Option.bind_some,
    Option.pure_def, Text.readDigits, List.foldl_cons, List.foldl_nil, Option.some.injEq]
  omega

theorem unit_escape_read (inside : n < 0x10000) : ∃ a b c d,
    unitEscape n = [.scalar '\\', .scalar 'u', a, b, c, d] ∧ unit? a b c d = some n := by
  obtain ⟨a, b, c, d, digits, unit⟩ := hex_read inside
  exact ⟨a, b, c, d, by rw [unitEscape, digits]; rfl, unit⟩

/-- How a code point is written in plain letters: in a letter behind a backslash, as it is, by its
unit, or by two units. -/
theorem ascii_escape_cases (c : CodePoint) :
    (∃ e, c.asciiEscape = [.scalar '\\', e] ∧ e ≠ .scalar 'u' ∧ Sample.shortEscape? e = some c) ∨
    (c.asciiEscape = [c] ∧ c ≠ .scalar '"' ∧ c ≠ .scalar '\\' ∧ ¬ c.val < 0x20) ∨
    (c.val < 0x10000 ∧ c.asciiEscape = unitEscape c.val) ∨
    (0x10000 ≤ c.val ∧ c.asciiEscape = unitEscape (0xD800 + (c.val - 0x10000) / 0x400) ++
      unitEscape (0xDC00 + (c.val - 0x10000) % 0x400)) := by
  unfold asciiEscape
  split
  · rename_i escape short
    left
    unfold CodePoint.shortEscape? at short
    split at short <;> cases short
    all_goals exact ⟨_, rfl, by decide, rfl⟩
  · rename_i noShort
    right
    split_ifs with shown small
    · refine .inl ⟨rfl, ?_, ?_, by omega⟩
      · rintro rfl
        cases noShort
      · rintro rfl
        cases noShort
    · exact .inr (.inl ⟨small, rfl⟩)
    · exact .inr (.inr ⟨by omega, rfl⟩)

theorem no_numeric_next (noEscape : ∀ left, t ≠ .scalar '\\' :: .scalar 'u' :: left) :
    secondHalf? n t = .ok none := by
  unfold secondHalf?
  split
  · exact absurd rfl (noEscape _)
  · rfl

theorem other_numeric_next {a b c d next : CodePoint} {low : Nat} {left : Text}
    (shape : t = .scalar '\\' :: .scalar 'u' :: a :: b :: c :: d :: next :: left)
    (unit : unit? a b c d = some low) (noLow : isLowSurrogate low = false) :
    secondHalf? n t = .ok none := by
  subst shape
  simp [secondHalf?, unit, noLow]

/-- Behind a first half that is written alone, a code point that is no second half is not taken
for one. -/
theorem stays_alone (noLow : isLowSurrogate d.val = false) {left : Text} (goesOn : left ≠ []) :
    secondHalf? n (d.asciiEscape ++ left) = .ok none := by
  obtain ⟨next, left, rfl⟩ := List.exists_cons_of_ne_nil goesOn
  rcases ascii_escape_cases d with ⟨e, written, noNumber, _⟩ | ⟨written, _, noEscape, _⟩ |
    ⟨small, written⟩ | ⟨beyond, written⟩
  · refine no_numeric_next fun left same => noNumber ?_
    rw [written] at same
    cases same
    rfl
  · refine no_numeric_next fun left same => noEscape ?_
    rw [written] at same
    cases same
    rfl
  · obtain ⟨_, _, _, _, digits, unit⟩ := unit_escape_read small
    exact other_numeric_next (by rw [written, digits]; rfl) unit noLow
  · have bound := StringLiterals.val_lt d
    obtain ⟨_, _, _, _, first, high⟩ := unit_escape_read
      (by omega : 0xD800 + (d.val - 0x10000) / 0x400 < 0x10000)
    obtain ⟨_, _, _, _, second, _⟩ := unit_escape_read
      (by omega : 0xDC00 + (d.val - 0x10000) % 0x400 < 0x10000)
    refine other_numeric_next (by rw [written, first, second]; rfl) high ?_
    rw [← Bool.not_eq_true, low_range]
    omega

/-- Behind the units of a whole text's first half nothing completes the pair. -/
theorem half_stays_alone (apart : ∀ d ∈ t.head?, ¬ Halves c d) (high : isHighSurrogate c.val = true)
    (rest : Text) : secondHalf? c.val (t.flatMap asciiEscape ++ .scalar '"' :: rest) = .ok none := by
  cases t with
  | nil =>
    refine no_numeric_next fun left same => ?_
    cases same
  | cons d t =>
    rw [List.flatMap_cons, List.append_assoc]
    refine stays_alone (Bool.eq_false_iff.mpr fun low => apart d rfl ⟨high, low⟩) ?_
    simp

theorem joined_again (beyond : 0x10000 ≤ c.val) :
    isHighSurrogate (0xD800 + (c.val - 0x10000) / 0x400) = true ∧
      isLowSurrogate (0xDC00 + (c.val - 0x10000) % 0x400) = true ∧
      joinSurrogates (0xD800 + (c.val - 0x10000) / 0x400) (0xDC00 + (c.val - 0x10000) % 0x400) = c := by
  have bound := StringLiterals.val_lt c
  refine ⟨high_range.mpr (by omega), low_range.mpr (by omega), ?_⟩
  have number : 0x10000 + (0xD800 + (c.val - 0x10000) / 0x400 - 0xD800) * 0x400 +
      (0xDC00 + (c.val - 0x10000) % 0x400 - 0xDC00) = c.val := by omega
  rw [joinSurrogates, number, of_nat_val]

/-- A whole text is read back from its spelling in plain letters. -/
theorem ascii_spells (whole : Whole t) (rest : Text) :
    Spells (t.flatMap asciiEscape ++ .scalar '"' :: rest) t rest := by
  induction t with
  | nil => exact .closed rest
  | cons c t ih =>
    obtain ⟨apart, others⟩ := whole_cons.mp whole
    have more := ih others
    rw [List.flatMap_cons, List.append_assoc]
    have goesOn : t.flatMap asciiEscape ++ .scalar '"' :: rest ≠ [] := by simp
    rcases ascii_escape_cases c with ⟨e, written, noNumber, escape⟩ |
      ⟨written, noQuote, noEscape, noControl⟩ | ⟨small, written⟩ | ⟨beyond, written⟩
    · rw [written]
      exact .short noNumber escape more
    · rw [written]
      exact .bare noQuote noEscape noControl more
    · obtain ⟨_, _, _, _, digits, unit⟩ := unit_escape_read small
      rw [written, digits]
      have escape := Escapes.single unit (fun high => half_stays_alone apart high rest) goesOn
      rw [of_nat_val] at escape
      exact .numeric escape more
    · obtain ⟨isHigh, isLow, joined⟩ := joined_again beyond
      obtain ⟨_, _, _, _, first, high⟩ := unit_escape_read
        (Nat.lt_of_lt_of_le (high_range.mp isHigh).2 (by decide))
      obtain ⟨_, _, _, _, second, low⟩ := unit_escape_read
        (Nat.lt_of_lt_of_le (low_range.mp isLow).2 (by decide))
      have escape := Escapes.pair high isHigh low isLow goesOn
      rw [joined] at escape
      rw [written, first, second]
      exact .numeric escape more

/-! ### Strings before other text -/

theorem spelled_nonempty (spells : Spells t value rest) : t ≠ [] := by
  cases spells <;> exact List.cons_ne_nil _ _

/-- What is behind a string does not complete a pair in it. -/
theorem half_alone_iff (spells : Spells t value []) (rest : Text) :
    secondHalf? n (t ++ rest) = .ok none ↔ secondHalf? n t = .ok none := by
  cases spells with
  | closed => exact iff_of_true rfl rfl
  | numeric escape more =>
    cases escape with
    | single unit alone goesOn =>
      obtain ⟨next, left, rfl⟩ := List.exists_cons_of_ne_nil goesOn
      simp only [List.cons_append, secondHalf?, unit]
      split <;> simp
    | pair first isHigh =>
      have noLow : isLowSurrogate _ = false := Bool.eq_false_iff.mpr fun low =>
        absurd (high_range.mp isHigh).2 (Nat.not_lt.mpr (low_range.mp low).1)
      simp [secondHalf?, first, noLow]
  | short noNumber =>
    have alone (u : Text) : secondHalf? n (.scalar '\\' :: _ :: u) = .ok none :=
      no_numeric_next fun left same => noNumber (List.cons.inj (List.cons.inj same).2).1
    exact iff_of_true (alone _) (alone _)
  | bare noQuote noEscape =>
    have alone (u : Text) : secondHalf? n (_ :: u) = .ok none :=
      no_numeric_next fun left same => noEscape (List.cons.inj same).1
    exact iff_of_true (alone _) (alone _)

/-- A string stands for itself: what is behind it can be taken off. -/
theorem spelled_alone (spells : Spells t value rest) : ∃ own, t = own ++ rest ∧ Spells own value [] := by
  induction spells with
  | closed left => exact ⟨[.scalar '"'], rfl, .closed []⟩
  | numeric escape more ih =>
    obtain ⟨own, rfl, spells⟩ := ih
    cases escape with
    | single unit alone goesOn =>
      have single := Escapes.single unit (fun high => (half_alone_iff spells _).mp (alone high))
        (spelled_nonempty spells)
      exact ⟨_, rfl, .numeric single spells⟩
    | pair first isHigh second isLow goesOn =>
      exact ⟨_, rfl, .numeric (.pair first isHigh second isLow (spelled_nonempty spells)) spells⟩
  | short noNumber escape more ih =>
    obtain ⟨own, rfl, spells⟩ := ih
    exact ⟨_, rfl, .short noNumber escape spells⟩
  | bare noQuote noEscape noControl more ih =>
    obtain ⟨own, rfl, spells⟩ := ih
    exact ⟨_, rfl, .bare noQuote noEscape noControl spells⟩

/-- So can anything be put behind it. -/
theorem spelled_before (spells : Spells t value []) (u : Text) : Spells (t ++ u) value u := by
  generalize ends : ([] : Text) = rest at spells
  induction spells with
  | closed left =>
    subst ends
    exact .closed u
  | numeric escape more ih =>
    subst ends
    have own := ih rfl
    cases escape with
    | single unit alone goesOn =>
      have single := Escapes.single unit (fun high => (half_alone_iff more u).mpr (alone high))
        (spelled_nonempty own)
      exact .numeric single own
    | pair first isHigh second isLow goesOn =>
      exact .numeric (.pair first isHigh second isLow (spelled_nonempty own)) own
  | short noNumber escape more ih => exact .short noNumber escape (ih ends)
  | bare noQuote noEscape noControl more ih => exact .bare noQuote noEscape noControl (ih ends)

end ClassMold.Spelling
