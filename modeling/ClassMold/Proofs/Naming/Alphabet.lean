import ClassMold.Naming
import ClassMold.Proofs.Text.Casing

/-! What names are made of. Of ASCII only the letters, the digits, the underscore
and the dollar sign get into the name of a class or a field, whatever the key: the
others are dropped or replaced, and no case mapping brings them back. So a name
ends where the punctuation around it begins. -/
namespace ClassMold.Alphabet
open CodePoint Casing

/-- The part of ASCII that names are made of. -/
def asciiWordRanges : List (Nat × Nat) :=
  [(0x24, 0x24), (0x30, 0x39), (0x41, 0x5A), (0x5F, 0x5F), (0x61, 0x7A)]

/-- Numbers that all belong to names: none of ASCII, or some of one of its ranges. -/
def Covered (first last : Int) : Prop :=
  0x80 ≤ first ∨ ∃ range ∈ asciiWordRanges, range.1 ≤ first ∧ last ≤ range.2

instance (first last : Int) : Decidable (Covered first last) :=
  inferInstanceAs (Decidable (_ ∨ ∃ range ∈ asciiWordRanges, _))

/-- A code point that a name can hold. -/
def IsWordPart (c : CodePoint) : Prop := Covered c.val c.val

instance : DecidablePred IsWordPart := fun c => inferInstanceAs (Decidable (Covered c.val c.val))

/-- A text without punctuation. -/
def IsWord (t : Text) : Prop := ∀ c ∈ t, IsWordPart c

instance : DecidablePred IsWord := fun t => inferInstanceAs (Decidable (∀ c ∈ t, IsWordPart c))

variable {c : CodePoint} {t u : Text}

theorem covered_inside {first last n : Int} (covered : Covered first last) (low : first ≤ n)
    (high : n ≤ last) : Covered n n := by
  rcases covered with large | ⟨range, listed, left, right⟩
  · exact .inl (Int.le_trans large low)
  · exact .inr ⟨range, listed, Int.le_trans left low, Int.le_trans high right⟩

@[simp] theorem is_word_nil : IsWord [] := fun _ listed => absurd listed List.not_mem_nil

@[simp] theorem is_word_cons : IsWord (c :: t) ↔ IsWordPart c ∧ IsWord t := List.forall_mem_cons

@[simp] theorem is_word_append : IsWord (t ++ u) ↔ IsWord t ∧ IsWord u := List.forall_mem_append

/-! ### What names hold

The case tables and the tables of identifiers are told by spans of numbers, so a kind of code
points is looked at through the spans that belong to it as a whole. -/

/-- Spans that every table leads to only: those of identifiers and those of both case mappings. -/
structure Closed (span : Int → Int → Prop) : Prop where
  inside : ∀ {first last n : Int}, span first last → first ≤ n → n ≤ last → span n n
  natural : ∀ {n : Int}, span n n → span n.toNat n.toNat
  replacement : span 0xFFFD 0xFFFD
  letters : ∀ range ∈ letterRanges, span range.1 range.2
  connectors : ∀ range ∈ connectorOrCurrencyRanges, span range.1 range.2
  digits : ∀ range ∈ decimalDigitRanges, span range.1 range.2
  upperSequences : ∀ entry ∈ toUpperSequences, ∀ n ∈ entry.2, span n n
  upperShifts : ∀ entry ∈ toUpperShifts, span (entry.1.first + entry.2) (entry.1.last + entry.2)
  lowerSequences : ∀ entry ∈ toLowerSequences, ∀ n ∈ entry.2, span n n
  lowerShifts : ∀ entry ∈ toLowerShifts, span (entry.1.first + entry.2) (entry.1.last + entry.2)

/-- A text that is made of some spans. -/
def Made (span : Int → Int → Prop) (t : Text) : Prop := ∀ c ∈ t, span c.val c.val

variable {span : Int → Int → Prop}

@[simp] theorem made_nil : Made span [] := List.forall_mem_nil _

@[simp] theorem made_cons : Made span (c :: t) ↔ span c.val c.val ∧ Made span t := List.forall_mem_cons

@[simp] theorem made_append : Made span (t ++ u) ↔ Made span t ∧ Made span u := List.forall_mem_append

section Closed

variable (closed : Closed span)
include closed

theorem within_made (ranges : List (Nat × Nat)) (table : ∀ range ∈ ranges, span range.1 range.2)
    (held : c.within ranges = true) : span c.val c.val := by
  simp only [within, List.any_eq_true, Bool.and_eq_true, decide_eq_true_eq] at held
  obtain ⟨range, listed, low, high⟩ := held
  exact closed.inside (table range listed) (by omega) (by omega)

/-- Whatever may stand in an identifier may stand in a name. -/
theorem continues_made (continues : c.continuesIdentifier = true) : span c.val c.val := by
  simp only [continuesIdentifier, startsIdentifier, Bool.or_eq_true] at continues
  rcases continues with (letter | other) | digit
  · exact within_made closed letterRanges closed.letters letter
  · exact within_made closed connectorOrCurrencyRanges closed.connectors other
  · exact within_made closed decimalDigitRanges closed.digits digit

theorem placed_made {n : Nat} (held : span n n) : span (ofNat n).val (ofNat n).val := by
  rcases val_of_nat n with same | replaced
  · rwa [same]
  · rw [replaced]
    exact closed.replacement

/-- A case mapping whose table leads to such spans only keeps to them. -/
theorem mapped_made {sequences : List (Nat × List Nat)} {shifts : List (Span × Int)}
    (bySequence : ∀ entry ∈ sequences, ∀ n ∈ entry.2, span n n)
    (byShift : ∀ entry ∈ shifts, span (entry.1.first + entry.2) (entry.1.last + entry.2))
    (part : span c.val c.val) : Made span (mapCase sequences shifts c) := by
  rcases map_case_cases sequences shifts c with
    ⟨entry, found, answer⟩ | ⟨-, ⟨entry, listed, held, answer⟩ | ⟨-, answer⟩⟩ <;> rw [answer]
  · intro d listed
    obtain ⟨n, member, rfl⟩ := List.mem_map.mp listed
    exact placed_made closed (bySequence entry (List.mem_of_find?_eq_some found) n member)
  · simp only [Span.holds, Bool.and_eq_true, decide_eq_true_eq] at held
    have shifted := closed.inside (n := c.val + entry.2) (byShift entry listed) (by omega) (by omega)
    exact made_cons.mpr ⟨placed_made closed (closed.natural shifted), made_nil⟩
  · exact made_cons.mpr ⟨part, made_nil⟩

theorem upper_made (part : span c.val c.val) : Made span c.toUpper :=
  mapped_made closed closed.upperSequences closed.upperShifts part

theorem lower_made (part : span c.val c.val) : Made span c.toLower :=
  mapped_made closed closed.lowerSequences closed.lowerShifts part

/-! ### Names from keys -/

theorem underscore_made : span underscore.val underscore.val := continues_made closed (by decide +kernel)

theorem capitalize_made (made : Made span t) : Made span (capitalizeFirstLetter t) := by
  induction t with
  | nil => exact made_nil
  | cons c t ih =>
    rw [made_cons] at made
    unfold capitalizeFirstLetter
    split
    · exact made_append.mpr ⟨upper_made closed made.1, made.2⟩
    · split
      · exact made_cons.mpr ⟨made.1, ih made.2⟩
      · exact made_cons.mpr made

theorem type_name_made (key : Text) : Made span (typeName key) :=
  capitalize_made closed fun _ kept => continues_made closed (List.mem_filter.mp kept).2

theorem join_words_made (afterRun : Bool) (made : Made span t) : Made span (joinWords afterRun t) := by
  induction t generalizing afterRun with
  | nil => cases afterRun <;> simp [joinWords, underscore_made closed]
  | cons c t ih =>
    rw [made_cons] at made
    rw [joinWords]
    split
    · exact ih true made.2
    · cases afterRun <;> simp [made.1, upper_made closed made.1, ih false made.2]

theorem camel_case_made (made : Made span t) : Made span (camelCase t) := by
  cases t with
  | nil => exact made_nil
  | cons c t =>
    rw [camelCase]
    split
    · exact made_cons.mpr ⟨(made_cons.mp made).1, join_words_made closed false (made_cons.mp made).2⟩
    · exact join_words_made closed false made

theorem lower_start_made (made : Made span t) : Made span (lowerStart t) := by
  match t with
  | [] => exact made_nil
  | [c] =>
    rw [lowerStart]
    split
    · exact lower_made closed (made_cons.mp made).1
    · exact made
  | c :: d :: rest =>
    have parts := made_cons.mp made
    rw [lowerStart]
    split
    · exact made_append.mpr ⟨lower_made closed parts.1, parts.2⟩
    · exact made

theorem guard_digit_made (made : Made span t) : Made span (guardDigit t) := by
  cases t with
  | nil => exact made_nil
  | cons c t =>
    rw [guardDigit]
    split
    · exact made_cons.mpr ⟨underscore_made closed, made⟩
    · exact made

theorem guard_reserved_made (made : Made span t) : Made span (guardReserved t) := by
  unfold guardReserved
  split
  · simp [made, underscore_made closed]
  · exact made

theorem words_made (key : Text) : Made span (words key) := by
  intro c listed
  obtain ⟨d, -, rfl⟩ := List.mem_map.mp listed
  by_cases continues : d.continuesIdentifier = true
  · simpa [continues] using continues_made closed continues
  · simpa [continues] using underscore_made closed

theorem field_name_made (key : Text) (isArray : Bool) : Made span (fieldName key isArray) :=
  guard_reserved_made closed (guard_digit_made closed (lower_start_made closed
    (camel_case_made closed (words_made closed _))))

theorem capitalized_made (made : Made span t) : Made span (capitalized t) := by
  cases t with
  | nil => exact made_nil
  | cons c t =>
    have parts := made_cons.mp made
    exact made_append.mpr ⟨upper_made closed parts.1, parts.2⟩

theorem identifier_made (legal : t.isIdentifier = true) : Made span t := by
  cases t with
  | nil => exact made_nil
  | cons c t =>
    simp only [Text.isIdentifier, Bool.and_eq_true, List.all_eq_true] at legal
    refine made_cons.mpr ⟨continues_made closed ?_, fun d listed => continues_made closed (legal.2 d listed)⟩
    simp [continuesIdentifier, legal.1.2]

end Closed

theorem singular_made (made : Made span t) : Made span (singular t) := by
  unfold singular
  split
  · exact fun c listed => made c (List.dropLast_subset t listed)
  · exact made

/-! ### Names without punctuation -/

theorem covered_closed : Closed Covered where
  inside := covered_inside
  natural := by
    intro n covered
    rwa [Int.toNat_of_nonneg]
    rcases covered with large | ⟨range, -, left, -⟩ <;> omega
  replacement := .inl (by decide)
  letters := by decide +kernel
  connectors := by decide
  digits := by decide
  upperSequences := by decide +kernel
  upperShifts := by decide +kernel
  lowerSequences := by decide +kernel
  lowerShifts := by decide +kernel

theorem type_name_word (key : Text) : IsWord (typeName key) := type_name_made covered_closed key

theorem field_name_word (key : Text) (isArray : Bool) : IsWord (fieldName key isArray) :=
  field_name_made covered_closed key isArray

theorem singular_word (word : IsWord t) : IsWord (singular t) := singular_made (word : Made Covered t)

theorem capitalized_word (word : IsWord t) : IsWord (capitalized t) := capitalized_made covered_closed word

theorem identifier_word (legal : t.isIdentifier = true) : IsWord t := identifier_made covered_closed legal

/-! ### Where a name ends -/

/-- A name before punctuation can be read in one way only. -/
theorem word_ends {a b r s : Text} {x y : CodePoint} (wordA : IsWord a) (wordB : IsWord b)
    (endA : ¬ IsWordPart x) (endB : ¬ IsWordPart y) (same : a ++ x :: r = b ++ y :: s) :
    a = b ∧ x = y ∧ r = s := by
  induction a generalizing b with
  | nil =>
    cases b with
    | nil => simpa using same
    | cons d b =>
      obtain ⟨rfl, -⟩ := List.cons.inj same
      exact absurd (is_word_cons.mp wordB).1 endA
  | cons c a ih =>
    cases b with
    | nil =>
      obtain ⟨rfl, -⟩ := List.cons.inj same
      exact absurd (is_word_cons.mp wordA).1 endB
    | cons d b =>
      obtain ⟨rfl, tails⟩ := List.cons.inj same
      obtain ⟨rfl, rest⟩ := ih (is_word_cons.mp wordA).2 (is_word_cons.mp wordB).2 tails
      exact ⟨rfl, rest⟩

end ClassMold.Alphabet
