import ClassMold.Proofs.Naming.FieldNames

/-! The normal form of a field's name. Sanitizing leaves underscores at the two ends of a name
only, no digit in front, no reserved word, and a single capital in front only where the letter
has no small form. Each of these is brought about by one step, and the steps behind it keep
it. A name of this form has nothing left that any step would change, so the names of fields
are exactly the identifiers in normal form, and sanitizing one of them again keeps it. -/
namespace ClassMold.NormalNames
open CodePoint FieldNames Casing

/-- A capital that no other one follows stands in front only if it has no small form. -/
def StartsSmall (t : Text) : Prop :=
  ∀ c ∈ t.head?, c.isUpper = true → (∀ d ∈ t.tail.head?, d.isUpper = false) → c.toLower = [c]

/-- A name in lower camel case. -/
structure LowerCamel (name : Text) : Prop where
  /-- An underscore stands first or last, if anywhere. -/
  inside : underscore ∉ name.tail.dropLast
  free : name.isReserved = false
  start : ∀ c ∈ name.head?, c.isDecimalDigit = false
  small : StartsSmall name

instance : DecidablePred StartsSmall := fun t =>
  inferInstanceAs (Decidable (∀ c ∈ t.head?, c.isUpper = true →
    (∀ d ∈ t.tail.head?, d.isUpper = false) → c.toLower = [c]))

instance : DecidablePred LowerCamel := fun name =>
  decidable_of_iff (underscore ∉ name.tail.dropLast ∧ name.isReserved = false ∧
      (∀ c ∈ name.head?, c.isDecimalDigit = false) ∧ StartsSmall name)
    ⟨fun ⟨inside, free, start, small⟩ => ⟨inside, free, start, small⟩,
      fun normal => ⟨normal.inside, normal.free, normal.start, normal.small⟩⟩

variable {c : CodePoint} {t : Text}

/-! ### What case mappings lead to -/

/-- Whether a shift leads to no number of some spans: to none from its first to its last, or
from none of its own. -/
def avoids (spans : List Span) (entry : Span × Int) : Bool :=
  spans.all fun span =>
    (entry.1.last + entry.2).toNat.blt span.first || span.last.blt (entry.1.first + entry.2).toNat ||
      (List.range' entry.1.first (entry.1.last - entry.1.first + 1)).all fun n =>
        !entry.1.holds n || !span.holds (n + entry.2).toNat

/-- A code point of some spans. -/
def among (spans : List Span) (c : CodePoint) : Bool := spans.any (·.holds c.val)

theorem shifted_apart {spans : List Span} {entry : Span × Int} (apart : avoids spans entry = true)
    (far : among spans (.scalar '\uFFFD') = false) {n : Nat} (held : entry.1.holds n = true) :
    among spans (ofNat (n + entry.2).toNat) = false := by
  rcases val_of_nat (n + entry.2).toNat with number | replaced
  · apply List.any_eq_false.mpr
    intro span listed reached
    rw [number] at reached
    have off := List.all_eq_true.mp apart span listed
    have inside := held
    have spanned := reached
    simp only [Span.holds, Bool.and_eq_true, decide_eq_true_eq] at inside spanned
    simp only [Bool.or_eq_true, Nat.blt_eq] at off
    rcases off with (below | above) | each
    · omega
    · omega
    · have placed := List.all_eq_true.mp each n (List.mem_range'_1.mpr ⟨by omega, by omega⟩)
      simp [held, reached] at placed
  · rw [among, replaced]
    exact far

/-- A case mapping keeps a code point or leads to others that some spans do not hold. -/
theorem mapped_apart {sequences : List (Nat × List Nat)} {shifts : List (Span × Int)}
    {spans : List Span} (far : among spans (.scalar '\uFFFD') = false)
    (bySequence : ∀ entry ∈ sequences, ∀ n ∈ entry.2, among spans (ofNat n) = false)
    (byShift : ∀ entry ∈ shifts, avoids spans entry = true) (c : CodePoint) :
    mapCase sequences shifts c = [c] ∨ ∀ d ∈ mapCase sequences shifts c, among spans d = false := by
  rcases map_case_cases sequences shifts c with
    ⟨entry, found, answer⟩ | ⟨-, ⟨entry, listed, held, answer⟩ | ⟨-, answer⟩⟩ <;> rw [answer]
  · right
    intro d listed
    obtain ⟨n, member, rfl⟩ := List.mem_map.mp listed
    exact bySequence entry (List.mem_of_find?_eq_some found) n member
  · right
    exact List.forall_mem_singleton.mpr (shifted_apart (byShift entry listed) far held)
  · exact .inl rfl

/-- The underscore alone, as a span. -/
def underscoreSpans : List Span := [⟨0x5F, 0x5F, 1⟩]

theorem mapped_no_underscore {sequences : List (Nat × List Nat)} {shifts : List (Span × Int)}
    (bySequence : ∀ entry ∈ sequences, ∀ n ∈ entry.2, among underscoreSpans (ofNat n) = false)
    (byShift : ∀ entry ∈ shifts, avoids underscoreSpans entry = true) (other : c ≠ underscore) :
    underscore ∉ mapCase sequences shifts c := by
  have own : among underscoreSpans underscore = true := by decide
  intro listed
  rcases mapped_apart (by decide) bySequence byShift c with same | apart
  · rw [same] at listed
    exact other (List.mem_singleton.mp listed).symm
  · exact absurd own (by simp [apart underscore listed])

theorem upper_no_underscore (other : c ≠ underscore) : underscore ∉ c.toUpper :=
  mapped_no_underscore (by decide +kernel) (by decide +kernel) other

theorem lower_no_underscore (other : c ≠ underscore) : underscore ∉ c.toLower :=
  mapped_no_underscore (by decide +kernel) (by decide +kernel) other

/-- A small form has no capital in it, unless it is the capital itself. -/
theorem lower_settles (c : CodePoint) : c.toLower = [c] ∨ ∀ d ∈ c.toLower, d.isUpper = false :=
  mapped_apart (by decide +kernel) (by decide +kernel) (by decide +kernel) c

/-! ### Underscores -/

theorem drop_last_append (front : Text) (free : underscore ∉ front) (ends : underscore ∉ t.dropLast) :
    underscore ∉ (front ++ t).dropLast := by
  rw [List.dropLast_append]
  split
  · exact fun listed => free (List.dropLast_subset front listed)
  · exact fun listed => (List.mem_append.mp listed).elim free ends

theorem inside_of_ends (ends : underscore ∉ t.dropLast) : underscore ∉ t.tail.dropLast := by
  rw [← List.tail_dropLast]
  exact mt List.mem_of_mem_tail ends

/-- Joined words hold an underscore at their end only. -/
theorem join_words_ends (afterRun : Bool) (t : Text) : underscore ∉ (joinWords afterRun t).dropLast := by
  induction t generalizing afterRun with
  | nil => cases afterRun <;> simp [joinWords]
  | cons c t ih =>
    rw [joinWords]
    split
    · exact ih true
    · rename_i other
      apply drop_last_append _ _ (ih false)
      cases afterRun with
      | false => exact fun listed => other (List.mem_singleton.mp listed).symm
      | true => exact upper_no_underscore other

theorem camel_case_inside (t : Text) : underscore ∉ (camelCase t).tail.dropLast := by
  cases t with
  | nil => exact List.not_mem_nil
  | cons c t =>
    rw [camel_case_cons]
    exact join_words_ends false t

theorem lower_start_inside (inside : underscore ∉ t.tail.dropLast) :
    underscore ∉ (lowerStart t).tail.dropLast := by
  cases t with
  | nil => exact inside
  | cons c t =>
    rw [lower_start_cons]
    split
    · rename_i lowered
      have other : c ≠ underscore := by
        rintro rfl
        exact absurd lowered.1 (by decide +kernel)
      exact inside_of_ends (drop_last_append c.toLower (lower_no_underscore other) inside)
    · exact inside

theorem guard_digit_inside (inside : underscore ∉ t.tail.dropLast) :
    underscore ∉ (guardDigit t).tail.dropLast := by
  cases t with
  | nil => exact inside
  | cons c t =>
    rw [guardDigit]
    split
    · rename_i digit
      have other : c ≠ underscore := by
        rintro rfl
        exact absurd digit (by decide)
      have free : underscore ∉ [c] := fun listed => other (List.mem_singleton.mp listed).symm
      exact drop_last_append [c] free inside
    · exact inside

theorem guard_reserved_inside (inside : underscore ∉ t.tail.dropLast) :
    underscore ∉ (guardReserved t).tail.dropLast := by
  have table : ∀ word ∈ reservedWords, underscore ∉ (word ++ [underscore]).tail.dropLast := by decide
  unfold guardReserved
  split
  · rename_i reserved
    exact table t (List.contains_iff_mem.mp reserved)
  · exact inside

/-! ### The start of a name -/

theorem guarded_no_digit (t : Text) :
    ∀ c ∈ (guardReserved (guardDigit t)).head?, c.isDecimalDigit = false := by
  intro c first
  rw [guard_reserved_head] at first
  cases t with
  | nil => cases first
  | cons d t =>
    rw [guardDigit] at first
    split at first
    · obtain rfl : underscore = c := Option.some.inj first
      decide
    · rename_i letter
      obtain rfl : d = c := Option.some.inj first
      simpa using letter

/-- A text that starts with no capital at all. -/
theorem starts_small (small : ∀ c ∈ t.head?, c.isUpper = false) : StartsSmall t := by
  intro c first upper
  rw [small c first] at upper
  cases upper

theorem lower_start_small (t : Text) : StartsSmall (lowerStart t) := by
  cases t with
  | nil => exact starts_small nofun
  | cons c t =>
    rw [lower_start_cons]
    split
    · rename_i lowered
      rcases lower_settles c with same | settled
      · rw [same]
        intro d first _ _
        obtain rfl : c = d := Option.some.inj first
        exact same
      · apply starts_small
        intro d first
        obtain ⟨lowest, others, shape⟩ := List.exists_cons_of_ne_nil (lower_nonempty c)
        rw [shape] at first settled
        exact settled d (Option.some.inj first ▸ List.mem_cons_self)
    · rename_i kept
      intro d first upper next
      obtain rfl : c = d := Option.some.inj first
      exact absurd ⟨upper, next⟩ kept

theorem guard_digit_small (small : StartsSmall t) : StartsSmall (guardDigit t) := by
  cases t with
  | nil => exact small
  | cons c t =>
    rw [guardDigit]
    split
    · apply starts_small
      intro d first
      obtain rfl : underscore = d := Option.some.inj first
      decide +kernel
    · exact small

theorem guard_reserved_small (small : StartsSmall t) : StartsSmall (guardReserved t) := by
  have table : ∀ word ∈ reservedWords, ∀ c ∈ word.head?, c.isUpper = false := by decide +kernel
  by_cases reserved : t.isReserved = true
  · apply starts_small
    rw [guard_reserved_head]
    exact table t (List.contains_iff_mem.mp reserved)
  · rw [guardReserved, if_neg reserved]
    exact small

/-! ### Names in normal form -/

theorem field_name_lower_camel (key : Text) (isArray : Bool) : LowerCamel (fieldName key isArray) where
  inside := guard_reserved_inside (guard_digit_inside (lower_start_inside (camel_case_inside _)))
  free := guarded_not_reserved _
  start := guarded_no_digit _
  small := guard_reserved_small (guard_digit_small (lower_start_small _))

theorem words_same (parts : AllParts t) : words t = t := by
  have first : t.dropWhile (!·.continuesIdentifier) = t := by
    cases t with
    | nil => rfl
    | cons c t => simp [(all_parts_cons.mp parts).1]
  rw [words, first]
  exact (List.map_congr_left fun c listed => if_pos (parts c listed)).trans (List.map_id t)

theorem join_words_same (ends : underscore ∉ t.dropLast) : joinWords false t = t := by
  induction t with
  | nil => rfl
  | cons c t ih =>
    cases t with
    | nil => by_cases same : c = underscore <;> simp [joinWords, same]
    | cons d t =>
      obtain ⟨other, later⟩ := not_or.mp (mt List.mem_cons.mpr ends)
      rw [joinWords, if_neg (Ne.symm other), ih later]
      rfl

theorem camel_case_same (inside : underscore ∉ t.tail.dropLast) : camelCase t = t := by
  cases t with
  | nil => rfl
  | cons c t =>
    have rest : joinWords false t = t := join_words_same inside
    rw [camel_case_cons, rest]

theorem lower_start_same (small : StartsSmall t) : lowerStart t = t := by
  cases t with
  | nil => rfl
  | cons c t =>
    rw [lower_start_cons]
    split
    · rename_i lowered
      rw [small c rfl lowered.1 lowered.2]
      rfl
    · rfl

theorem guard_digit_same (start : ∀ c ∈ t.head?, c.isDecimalDigit = false) : guardDigit t = t := by
  cases t with
  | nil => rfl
  | cons c t => simp [guardDigit, start c rfl]

/-- Sanitizing finds nothing to change in a name in normal form. -/
theorem lower_camel_same (parts : AllParts t) (normal : LowerCamel t) : fieldName t false = t := by
  have chain : fieldName t false = guardReserved (guardDigit (lowerStart (camelCase (words t)))) := rfl
  rw [chain, words_same parts, camel_case_same normal.inside, lower_start_same normal.small,
    guard_digit_same normal.start, guardReserved, if_neg (by simp [normal.free])]

/-- Every name of a field is in lower camel case, and of identifiers the names in lower camel
case are all names of fields. -/
theorem field_names_in_lower_camel :
    (∀ key isArray, LowerCamel (fieldName key isArray)) ∧
      ∀ name : Text, name.isIdentifier = true →
        (LowerCamel name ↔ ∃ key isArray, fieldName key isArray = name) := by
  refine ⟨field_name_lower_camel, fun name legal => ⟨fun normal => ?_, ?_⟩⟩
  · exact ⟨name, false, lower_camel_same ((identifier_iff name).mp legal).2.2.2 normal⟩
  · rintro ⟨key, isArray, rfl⟩
    exact field_name_lower_camel key isArray

/-- The double-struck capital has no small form, so it may start a name. -/
theorem capital_starts_name :
    Text.isIdentifier "\u211Daum_" = true ∧ LowerCamel "\u211Daum_" ∧
      ∃ key isArray, fieldName key isArray = "\u211Daum_" := by
  have legal : Text.isIdentifier "\u211Daum_" = true := by decide +kernel
  have normal : LowerCamel "\u211Daum_" := by decide +kernel
  exact ⟨legal, normal, (field_names_in_lower_camel.2 "\u211Daum_" legal).mp normal⟩

/-! ### Sanitizing again -/

/-- A single code point, of those that identifiers can hold. -/
def IsSinglePart (t : Text) : Prop := t.length = 1 ∧ AllParts t

/-- Each code point of a key that identifiers can hold is a single one of these in either case. -/
def PlainlyCased (key : Text) : Prop :=
  ∀ c ∈ key, c.continuesIdentifier = true → IsSinglePart c.toUpper ∧ IsSinglePart c.toLower

instance : DecidablePred IsSinglePart := fun t =>
  inferInstanceAs (Decidable (t.length = 1 ∧ ∀ c ∈ t, c.continuesIdentifier = true))

instance : DecidablePred PlainlyCased := fun key =>
  inferInstanceAs (Decidable (∀ c ∈ key, c.continuesIdentifier = true → _))

variable {key : Text}

/-- A code point that no sequence is told for stays a single one. -/
theorem mapped_single {sequences : List (Nat × List Nat)} {shifts : List (Span × Int)}
    (untold : ∀ entry ∈ sequences, entry.1 ≠ c.val) : (mapCase sequences shifts c).length = 1 := by
  rcases map_case_cases sequences shifts c with
    ⟨entry, found, answer⟩ | ⟨-, ⟨entry, -, -, answer⟩ | ⟨-, answer⟩⟩ <;> rw [answer]
  · have own : entry.1 = c.val := by simpa using List.find?_some found
    exact absurd own (untold entry (List.mem_of_find?_eq_some found))
  · rfl
  · rfl

/-- The tables tell of sequences and of marks beyond ASCII only. -/
theorem ascii_plainly_cased (ascii : ∀ c ∈ key, c.val < 0x80) : PlainlyCased key := by
  have raised : ∀ entry ∈ toUpperSequences, 0x80 ≤ entry.1 := by decide
  have lowered : ∀ entry ∈ toLowerSequences, 0x80 ≤ entry.1 := by decide
  have marked : ∀ n ∈ markedCapitals, 0x80 ≤ n := by decide
  have dotted : 0x80 ≤ dottedCapital := by decide
  intro c listed part
  have small := ascii c listed
  constructor
  · refine ⟨mapped_single fun entry told => ?_, (upper_parts_iff part).mpr fun told => ?_⟩
    · have := raised entry told
      omega
    · have := marked c.val told
      omega
  · refine ⟨mapped_single fun entry told => ?_, (lower_parts_iff part).mpr fun told => ?_⟩
    · have := lowered entry told
      omega
    · omega

/-- The words of a key hold nothing but its own code points, the ending of a plural and underscores. -/
theorem plainly_cased_words (cased : PlainlyCased key) (isArray : Bool) :
    PlainlyCased (words (numbered key isArray)) := by
  have ending : PlainlyCased "s" := ascii_plainly_cased (by decide)
  have joint : PlainlyCased [underscore] := ascii_plainly_cased (by decide)
  have whole : PlainlyCased (numbered key isArray) := by
    unfold numbered plural
    split
    · split
      · exact cased
      · exact List.forall_mem_append.mpr ⟨cased, ending⟩
    · exact cased
  intro c listed
  obtain ⟨d, kept, rfl⟩ := List.mem_map.mp listed
  split
  · exact whole d ((List.dropWhile_suffix _).subset kept)
  · exact joint underscore List.mem_cons_self

/-- Plainly cased letters bring no mark into a name. -/
theorem plainly_cased_parts (cased : PlainlyCased key) (isArray : Bool) :
    AllParts (fieldName key isArray) := by
  have plain := plainly_cased_words cased isArray
  have parts := words_parts (numbered key isArray)
  rw [field_name_parts_iff]
  rintro (⟨c, inside, marked⟩ | ⟨⟨c, first, dotted⟩, -⟩)
  · have listed : c ∈ words (numbered key isArray) :=
      List.mem_of_mem_tail (inside.subset (List.mem_cons_of_mem _ List.mem_cons_self))
    have part := parts c listed
    exact (upper_parts_iff part).mp (plain c listed part).1.2 marked
  · rw [camel_case_head] at first
    have listed := List.mem_of_mem_head? first
    have part := parts c listed
    exact (lower_parts_iff part).mp (plain c listed part).2.2 dotted

/-- A field's name is kept when it is sanitized as a key of its own, whatever key it was made of,
if only what that key has for identifiers is plainly cased. In ASCII everything is. -/
theorem sanitized_again_same (key : Text) (isArray : Bool) :
    ((∀ c ∈ key, c.val < 0x80) → PlainlyCased key) ∧
      (PlainlyCased key → fieldName (fieldName key isArray) false = fieldName key isArray) := by
  refine ⟨ascii_plainly_cased, fun cased => ?_⟩
  exact lower_camel_same (plainly_cased_parts cased isArray) (field_name_lower_camel key isArray)

/-- A key that starts with a digit behind what is passed over, with a small letter to raise behind
a mixed run, and one of ASCII that becomes a reserved word by its ending. -/
theorem guards_kept_again :
    PlainlyCased "--2nd_-\u00E9t\u00E9_" ∧
      fieldName (fieldName "--2nd_-\u00E9t\u00E9_" true) false = "_2nd\u00C9t\u00E9S" ∧
      (∀ c ∈ Text.ofString "thi", c.val < 0x80) ∧
      fieldName (fieldName "thi" true) false = "this_" := by
  have cased : PlainlyCased "--2nd_-\u00E9t\u00E9_" := by decide +kernel
  have ascii : ∀ c ∈ Text.ofString "thi", c.val < 0x80 := by decide
  have guarded := (sanitized_again_same "--2nd_-\u00E9t\u00E9_" true).2 cased
  obtain ⟨plain, kept⟩ := sanitized_again_same "thi" true
  refine ⟨cased, guarded.trans ?_, ascii, (kept (plain ascii)).trans ?_⟩
  · decide +kernel
  · decide +kernel

end ClassMold.NormalNames
