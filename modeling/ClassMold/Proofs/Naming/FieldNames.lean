import Mathlib.Data.List.TakeWhile
import ClassMold.Naming
import ClassMold.Proofs.Text.Casing

/-! Which keys give fields a legal name. Whatever an identifier cannot hold is dropped
or replaced before the words of a key are joined, but a few letters get a mark when
their case is changed, and a mark cannot stand in an identifier. So a name is legal
unless joining the words brings such a mark in; nothing else that a later step does
undoes what an earlier one established. -/
namespace ClassMold.FieldNames
open CodePoint Casing

/-- A text of code points that can stand in identifiers. -/
def AllParts (t : Text) : Prop := ∀ c ∈ t, c.continuesIdentifier = true

variable {c : CodePoint} {t u : Text}

@[simp] theorem all_parts_nil : AllParts [] := fun _ listed => absurd listed List.not_mem_nil

@[simp] theorem all_parts_cons : AllParts (c :: t) ↔ c.continuesIdentifier = true ∧ AllParts t :=
  List.forall_mem_cons

@[simp] theorem all_parts_append : AllParts (t ++ u) ↔ AllParts t ∧ AllParts u :=
  List.forall_mem_append

/-! ### Case mappings -/

/-- The code points that identifiers can hold. -/
def partRanges : List (Nat × Nat) := letterRanges ++ connectorOrCurrencyRanges ++ decimalDigitRanges

/-- The letters whose capital is written with a mark. -/
def markedCapitals : List Nat := [
  0x1F0, 0x390, 0x3B0, 0x1E96, 0x1E97, 0x1E98, 0x1E99, 0x1F50, 0x1F52, 0x1F54, 0x1F56, 0x1FB6, 0x1FB7,
  0x1FC6, 0x1FC7, 0x1FD2, 0x1FD3, 0x1FD6, 0x1FD7, 0x1FE2, 0x1FE3, 0x1FE4, 0x1FE6, 0x1FE7, 0x1FF6, 0x1FF7]

/-- The capital letter whose small form is written with a mark. -/
def dottedCapital : Nat := 0x130

/-- Whether a letter has a number of this span. -/
def lettersFill (first last : Nat) : Bool :=
  letterRanges.any fun range => range.1.ble first && last.ble range.2

/-- Whether a shift leads from what can stand in identifiers to letters: as a whole, not
at all, or at each place of its span. -/
def keepsParts (entry : Span × Int) : Bool :=
  lettersFill (entry.1.first + entry.2).toNat (entry.1.last + entry.2).toNat ||
  partRanges.all (fun range => entry.1.last < range.1 || range.2 < entry.1.first) ||
  (List.range' entry.1.first (entry.1.last - entry.1.first + 1)).all fun n =>
    !entry.1.holds n || lettersFill (n + entry.2).toNat (n + entry.2).toNat

theorem continues_within (c : CodePoint) : c.continuesIdentifier = c.within partRanges := by
  simp only [continuesIdentifier, startsIdentifier, isLetter, isConnectorOrCurrency, isDecimalDigit,
    within, partRanges, List.any_append]

theorem letter_of_number {first last n : Nat} (filled : lettersFill first last = true)
    (low : first ≤ n) (high : n ≤ last) : (ofNat n).continuesIdentifier = true := by
  have bound : ∀ range ∈ letterRanges, range.2 < 0x110000 := by decide +kernel
  simp only [lettersFill, List.any_eq_true, Bool.and_eq_true, Nat.ble_eq] at filled
  obtain ⟨range, listed, left, right⟩ := filled
  have inside := bound range listed
  have number : (ofNat n).val = n := val_of_nat_inside (by omega)
  have letter : (ofNat n).isLetter = true := by
    simp only [isLetter, within, List.any_eq_true, Bool.and_eq_true, decide_eq_true_eq, number]
    exact ⟨range, listed, by omega, by omega⟩
  simp [continuesIdentifier, startsIdentifier, letter]

theorem shifted_part {entry : Span × Int} (keeps : keepsParts entry = true)
    (part : c.continuesIdentifier = true) (held : entry.1.holds c.val = true) :
    (ofNat (c.val + entry.2).toNat).continuesIdentifier = true := by
  have spanned := held
  simp only [Span.holds, Bool.and_eq_true, decide_eq_true_eq] at spanned
  simp only [keepsParts, Bool.or_eq_true] at keeps
  rcases keeps with (whole | apart) | each
  · exact letter_of_number whole (by omega) (by omega)
  · rw [continues_within] at part
    simp only [within, List.any_eq_true, Bool.and_eq_true, decide_eq_true_eq] at part
    obtain ⟨range, listed, low, high⟩ := part
    have outside := List.all_eq_true.mp apart range listed
    simp only [Bool.or_eq_true, decide_eq_true_eq] at outside
    omega
  · have placed := List.all_eq_true.mp each c.val (List.mem_range'_1.mpr ⟨by omega, by omega⟩)
    simp only [held, Bool.not_true, Bool.false_or] at placed
    exact letter_of_number placed (Nat.le_refl _) (Nat.le_refl _)

/-- A code point without a sequence carries no mark. -/
theorem unmarked_untold {sequences : List (Nat × List Nat)} {marked : List Nat}
    (carrying : ∀ n ∈ marked, (sequences.find? (·.1 == n)).any
      (fun entry => !entry.2.all fun m => (ofNat m).continuesIdentifier) = true)
    (untold : sequences.find? (·.1 == c.val) = none) : c.val ∉ marked := by
  intro listed
  have carries := carrying c.val listed
  rw [untold] at carries
  cases carries

/-- A case mapping leads out of identifiers at the entries that carry a mark, and nowhere else. -/
theorem mapped_parts_iff {sequences : List (Nat × List Nat)} {shifts : List (Span × Int)}
    {marked : List Nat}
    (carrying : ∀ n ∈ marked, (sequences.find? (·.1 == n)).any
      (fun entry => !entry.2.all fun m => (ofNat m).continuesIdentifier) = true)
    (plain : ∀ entry ∈ sequences, entry.1 ∈ marked ∨
      entry.2.all (fun m => (ofNat m).continuesIdentifier) = true)
    (shifted : ∀ entry ∈ shifts, keepsParts entry = true) (part : c.continuesIdentifier = true) :
    AllParts (mapCase sequences shifts c) ↔ c.val ∉ marked := by
  rcases map_case_cases sequences shifts c with
    ⟨entry, found, answer⟩ | ⟨untold, ⟨entry, listed, held, answer⟩ | ⟨-, answer⟩⟩ <;> rw [answer]
  · have own : entry.1 = c.val := by simpa using List.find?_some found
    have parts : AllParts (entry.2.map ofNat) ↔
        entry.2.all (fun m => (ofNat m).continuesIdentifier) = true := by
      simp [AllParts]
    rw [parts]
    constructor
    · intro every listed
      have carries := carrying c.val listed
      rw [found, Option.any_some, every] at carries
      cases carries
    · intro unlisted
      exact (plain entry (List.mem_of_find?_eq_some found)).resolve_left (own ▸ unlisted)
  · refine iff_of_true ?_ (unmarked_untold carrying untold)
    simpa using shifted_part (shifted entry listed) part held
  · refine iff_of_true ?_ (unmarked_untold carrying untold)
    simpa using part

theorem upper_parts_iff (part : c.continuesIdentifier = true) :
    AllParts c.toUpper ↔ c.val ∉ markedCapitals :=
  mapped_parts_iff (by decide +kernel) (by decide +kernel) (by decide +kernel) part

theorem lower_parts_iff (part : c.continuesIdentifier = true) :
    AllParts c.toLower ↔ c.val ≠ dottedCapital := by
  have unlisted : c.val ∉ [dottedCapital] ↔ c.val ≠ dottedCapital := by simp
  rw [← unlisted]
  exact mapped_parts_iff (by decide +kernel) (by decide +kernel) (by decide +kernel) part

theorem dotted_upper (dotted : c.val = dottedCapital) : c.isUpper = true := by
  rw [isUpper, dotted]
  decide

/-- A case mapping leaves nothing out. -/
theorem mapped_nonempty {sequences : List (Nat × List Nat)} {shifts : List (Span × Int)}
    (filled : ∀ entry ∈ sequences, entry.2 ≠ []) (c : CodePoint) : mapCase sequences shifts c ≠ [] := by
  rcases map_case_cases sequences shifts c with
    ⟨entry, found, answer⟩ | ⟨-, ⟨entry, -, -, answer⟩ | ⟨-, answer⟩⟩ <;> rw [answer]
  · simpa using filled entry (List.mem_of_find?_eq_some found)
  · exact List.cons_ne_nil _ _
  · exact List.cons_ne_nil _ _

theorem upper_nonempty (c : CodePoint) : c.toUpper ≠ [] := mapped_nonempty (by decide) c

theorem lower_nonempty (c : CodePoint) : c.toLower ≠ [] := mapped_nonempty (by decide) c

/-! ### Joining words -/

/-- No letter behind an underscore has a marked capital. -/
def Unmarked (t : Text) : Prop := ∀ c, [underscore, c] <:+: t → c.val ∉ markedCapitals

theorem underscore_unmarked : underscore.val ∉ markedCapitals := by decide

theorem unmarked_short : Unmarked [] ∧ Unmarked [underscore] := by
  constructor <;>
    · intro c inside
      have shorter := inside.length_le
      simp at shorter

theorem unmarked_pair (rest : Text) :
    Unmarked (underscore :: c :: rest) ↔ c.val ∉ markedCapitals ∧ Unmarked (c :: rest) := by
  constructor
  · intro unmarked
    exact ⟨unmarked c (List.prefix_append [underscore, c] rest).isInfix,
      fun d inside => unmarked d (inside.trans (List.suffix_cons _ _).isInfix)⟩
  · rintro ⟨first, others⟩ d inside
    rcases List.infix_cons_iff.mp inside with starts | later
    · obtain ⟨-, starts⟩ := List.cons_prefix_cons.mp starts
      obtain ⟨rfl, -⟩ := List.cons_prefix_cons.mp starts
      exact first
    · exact others d later

theorem unmarked_other (other : c ≠ underscore) (rest : Text) : Unmarked (c :: rest) ↔ Unmarked rest := by
  constructor
  · exact fun unmarked d inside => unmarked d (inside.trans (List.suffix_cons _ _).isInfix)
  · intro unmarked d inside
    rcases List.infix_cons_iff.mp inside with starts | later
    · exact absurd (List.cons_prefix_cons.mp starts).1.symm other
    · exact unmarked d later

/-- What is owed to the underscore that has just been passed. -/
def passed (afterRun : Bool) : Text := if afterRun then [underscore] else []

theorem underscore_starts : underscore.startsIdentifier = true := by
  have connector : underscore.isConnectorOrCurrency = true := by decide
  simp [startsIdentifier, connector]

theorem underscore_part : underscore.continuesIdentifier = true := by
  simp [continuesIdentifier, underscore_starts]

theorem join_words_parts_iff (afterRun : Bool) (parts : AllParts t) :
    AllParts (joinWords afterRun t) ↔ Unmarked (passed afterRun ++ t) := by
  -- The flag stands for an underscore in front: the next letter is raised behind it.
  induction t generalizing afterRun with
  | nil =>
    cases afterRun with
    | false => simp [joinWords, passed, unmarked_short.1]
    | true => simp [joinWords, passed, unmarked_short.2, underscore_part]
  | cons c t ih =>
    obtain ⟨part, others⟩ := all_parts_cons.mp parts
    rw [joinWords]
    split
    · rename_i same
      subst same
      rw [ih true others]
      cases afterRun with
      | false => rfl
      | true => simp [passed, unmarked_pair, underscore_unmarked]
    · rename_i other
      cases afterRun with
      | false => simp [passed, part, ih false others, unmarked_other other]
      | true =>
        simp [passed, ih false others, unmarked_pair, unmarked_other other, upper_parts_iff part]

/-- The first code point is kept whatever it is, and runs are joined behind it only. -/
theorem camel_case_cons (c : CodePoint) (t : Text) : camelCase (c :: t) = c :: joinWords false t := by
  rw [camelCase]
  split
  · rfl
  · rename_i other
    rw [joinWords, if_neg other]
    rfl

theorem camel_case_parts_iff (parts : AllParts t) : AllParts (camelCase t) ↔ Unmarked t.tail := by
  cases t with
  | nil => simp [camelCase, unmarked_short.1]
  | cons c t =>
    obtain ⟨part, others⟩ := all_parts_cons.mp parts
    rw [camel_case_cons, all_parts_cons, join_words_parts_iff false others]
    simp [passed, part]

theorem camel_case_nil_iff (t : Text) : camelCase t = [] ↔ t = [] := by
  cases t with
  | nil => simp [camelCase]
  | cons c t => simp [camel_case_cons]

/-- The first word is not raised. -/
theorem camel_case_head (t : Text) : (camelCase t).head? = t.head? := by
  cases t with
  | nil => rfl
  | cons c t => rw [camel_case_cons, List.head?_cons, List.head?_cons]

/-! ### The start of a name -/

/-- A name that starts with the capital whose small form carries a mark, and is to be
written small there. -/
def StartsDotted (t : Text) : Prop :=
  (∃ c ∈ t.head?, c.val = dottedCapital) ∧ ∀ d ∈ t.tail.head?, d.isUpper = false

theorem lower_start_cons (c : CodePoint) (t : Text) :
    lowerStart (c :: t) = if c.isUpper ∧ ∀ d ∈ t.head?, d.isUpper = false then c.toLower ++ t
      else c :: t := by
  cases t <;> simp [lowerStart]

theorem lower_start_nil_iff (t : Text) : lowerStart t = [] ↔ t = [] := by
  cases t with
  | nil => simp [lowerStart]
  | cons c t =>
    rw [lower_start_cons]
    split <;> simp [lower_nonempty]

theorem lower_start_parts_iff (starts : ∀ c ∈ t.head?, c.continuesIdentifier = true) :
    AllParts (lowerStart t) ↔ AllParts t ∧ ¬ StartsDotted t := by
  cases t with
  | nil => simp [lowerStart, StartsDotted]
  | cons c t =>
    have part : c.continuesIdentifier = true := starts c rfl
    rw [lower_start_cons]
    split
    · rename_i lowered
      have dotted : StartsDotted (c :: t) ↔ c.val = dottedCapital :=
        ⟨fun ⟨⟨_, first, dotted⟩, _⟩ => Option.some.inj first ▸ dotted,
          fun dotted => ⟨⟨c, rfl, dotted⟩, lowered.2⟩⟩
      simp [dotted, part, lower_parts_iff part, and_comm]
    · rename_i kept
      have plain : ¬ StartsDotted (c :: t) := by
        rintro ⟨⟨d, first, dotted⟩, next⟩
        obtain rfl : c = d := Option.some.inj first
        exact kept ⟨dotted_upper dotted, next⟩
      simp [plain]

/-! ### Guards -/

theorem guard_digit_parts_iff : AllParts (guardDigit t) ↔ AllParts t := by
  cases t with
  | nil => rfl
  | cons c t =>
    rw [guardDigit]
    split <;> simp [underscore_part]

theorem guard_digit_nil_iff : guardDigit t = [] ↔ t = [] := by
  cases t with
  | nil => rfl
  | cons c t =>
    rw [guardDigit]
    split <;> simp

theorem guard_reserved_parts_iff : AllParts (guardReserved t) ↔ AllParts t := by
  unfold guardReserved
  split <;> simp [underscore_part]

theorem reserved_nonempty (reserved : t.isReserved = true) : t ≠ [] := by
  have empty : Text.isReserved [] = false := by decide
  rintro rfl
  exact absurd reserved (by simp [empty])

theorem guard_reserved_nil_iff : guardReserved t = [] ↔ t = [] := by
  unfold guardReserved
  split
  · rename_i reserved
    simp [reserved_nonempty reserved]
  · rfl

/-- No reserved word ends in an underscore that could be taken off another one. -/
theorem reserved_underscore (reserved : t.isReserved = true) : (t ++ [underscore]).isReserved = false := by
  have table : ∀ word ∈ reservedWords, (word ++ [underscore]).isReserved = false := by decide
  exact table t (List.contains_iff_mem.mp reserved)

theorem guarded_not_reserved (t : Text) : (guardReserved t).isReserved = false := by
  unfold guardReserved
  split
  · rename_i reserved
    exact reserved_underscore reserved
  · rename_i free
    simpa using free

theorem guard_reserved_head (t : Text) : (guardReserved t).head? = t.head? := by
  unfold guardReserved
  split
  · rename_i reserved
    cases t with
    | nil => exact absurd rfl (reserved_nonempty reserved)
    | cons c t => rfl
  · rfl

/-- Behind both guards a name starts like an identifier if it holds what identifiers can. -/
theorem guarded_start (parts : AllParts t) :
    ∀ c ∈ (guardReserved (guardDigit t)).head?, c.startsIdentifier = true := by
  intro c first
  rw [guard_reserved_head] at first
  cases t with
  | nil => cases first
  | cons d t =>
    rw [guardDigit] at first
    split at first
    · obtain rfl : underscore = c := Option.some.inj first
      exact underscore_starts
    · rename_i letter
      obtain rfl : d = c := Option.some.inj first
      have part := (all_parts_cons.mp parts).1
      simpa [continuesIdentifier, letter] using part

/-! ### Names from keys -/

theorem words_parts (key : Text) : AllParts (words key) := by
  intro c listed
  obtain ⟨d, -, rfl⟩ := List.mem_map.mp listed
  by_cases part : d.continuesIdentifier = true
  · simp [part]
  · simp [part, underscore_part]

theorem words_nil_iff (key : Text) : words key = [] ↔ ∀ c ∈ key, c.continuesIdentifier = false := by
  simp [words, List.dropWhile_eq_nil_iff]

/-- A key keeps what it ends in if identifiers can hold it. -/
theorem words_end (part : c.continuesIdentifier = true) (front : Text) :
    ∃ kept, words (front ++ [c]) = kept ++ [c] := by
  have placed : [c].map (fun c => if c.continuesIdentifier then c else underscore) = [c] := by simp [part]
  rw [words, List.dropWhile_append]
  split
  · exact ⟨[], by simp [part]⟩
  · rw [List.map_append, placed]
    exact ⟨_, rfl⟩

theorem plural_ends (key : Text) : ∃ front, plural key = front ++ "s" := by
  unfold plural
  split
  · rename_i ending
    obtain ⟨front, whole⟩ := List.isSuffixOf_iff_suffix.mp ending
    exact ⟨front, whole.symm⟩
  · exact ⟨key, rfl⟩

/-- The ending of a plural is a letter, so it is neither passed over nor replaced. -/
theorem plural_words_end (key : Text) : ∃ front, words (plural key) = front ++ "s" := by
  obtain ⟨front, whole⟩ := plural_ends key
  rw [whole]
  exact words_end (by decide) front

/-- A plural has a letter in any case. -/
theorem plural_words_nonempty (key : Text) : words (plural key) ≠ [] := by
  obtain ⟨front, chain⟩ := plural_words_end key
  rw [chain]
  exact List.append_ne_nil_of_right_ne_nil front (by decide)

/-- The key that a name is made from: that of an array is put into the plural. -/
def numbered (key : Text) (isArray : Bool) : Text := if isArray then plural key else key

/-- Joining the words of a key brings a mark in: in the capital of a letter behind a
separator, or in the small form of the first letter. An underscore in front is no
separator. -/
def BringsMark (chain : Text) : Prop :=
  (∃ c, [underscore, c] <:+: chain.tail ∧ c.val ∈ markedCapitals) ∨ StartsDotted (camelCase chain)

theorem identifier_iff (t : Text) :
    t.isIdentifier = true ↔ t ≠ [] ∧ t.isReserved = false ∧
      (∀ c ∈ t.head?, c.startsIdentifier = true) ∧ AllParts t := by
  cases t with
  | nil => simp [Text.isIdentifier]
  | cons c t =>
    simp only [Text.isIdentifier, Bool.and_eq_true, Bool.not_eq_true', List.all_eq_true, ne_eq,
      reduceCtorEq, not_false_eq_true, true_and, List.head?_cons, Option.mem_some_iff, forall_eq',
      all_parts_cons, and_assoc]
    constructor
    · rintro ⟨free, starts, others⟩
      exact ⟨free, starts, by simp [continuesIdentifier, starts], others⟩
    · rintro ⟨free, starts, -, others⟩
      exact ⟨free, starts, others⟩

theorem field_name_nil_iff (key : Text) (isArray : Bool) :
    fieldName key isArray = [] ↔ isArray = false ∧ ∀ c ∈ key, c.continuesIdentifier = false := by
  rw [fieldName, guard_reserved_nil_iff, guard_digit_nil_iff, lower_start_nil_iff, camel_case_nil_iff]
  cases isArray with
  | false => simp [words_nil_iff]
  | true => simp [plural_words_nonempty]

theorem field_name_parts_iff (key : Text) (isArray : Bool) :
    AllParts (fieldName key isArray) ↔ ¬ BringsMark (words (numbered key isArray)) := by
  have parts := words_parts (numbered key isArray)
  have starts : ∀ c ∈ (camelCase (words (numbered key isArray))).head?,
      c.continuesIdentifier = true := by
    rw [camel_case_head]
    exact fun c first => parts c (List.mem_of_mem_head? first)
  have chain : fieldName key isArray =
      guardReserved (guardDigit (lowerStart (camelCase (words (numbered key isArray))))) := rfl
  rw [chain, guard_reserved_parts_iff, guard_digit_parts_iff, lower_start_parts_iff starts,
    camel_case_parts_iff parts, BringsMark, not_or]
  simp only [Unmarked, not_exists, not_and]

/-- A key without anything that identifiers can hold gives an empty name unless it holds
an array. Every other name is an identifier, except where joining the words of the key
brings a mark in. -/
theorem field_name_legal_iff (key : Text) (isArray : Bool) :
    (fieldName key isArray = [] ↔ isArray = false ∧ ∀ c ∈ key, c.continuesIdentifier = false) ∧
      ((fieldName key isArray).isIdentifier = true ∨ fieldName key isArray = [] ↔
        ¬ BringsMark (words (numbered key isArray))) := by
  refine ⟨field_name_nil_iff key isArray, ?_⟩
  rw [← field_name_parts_iff]
  constructor
  · rintro (legal | empty)
    · exact ((identifier_iff _).mp legal).2.2.2
    · simp [empty]
  · intro parts
    by_cases empty : fieldName key isArray = []
    · exact .inr empty
    · refine .inl ((identifier_iff _).mpr ⟨empty, guarded_not_reserved _, ?_, parts⟩)
      exact guarded_start (guard_digit_parts_iff.mp (guard_reserved_parts_iff.mp parts))

/-- The second letter has no capital without a mark. -/
theorem caron_not_identifier :
    (fieldName "a_\u01F0" false).isIdentifier = false ∧ fieldName "a_\u01F0" false ≠ [] := by
  decide +kernel

end ClassMold.FieldNames
