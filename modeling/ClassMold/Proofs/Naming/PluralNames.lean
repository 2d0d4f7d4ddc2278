import ClassMold.Proofs.Naming.SharedNames

/-! The names of fields that hold arrays. A key is put into the plural before anything else is
done with it, and each later step works on the whole name, so each could do away with the
ending. None does: joining words may raise it, and a guard may stand behind it where a reserved
word has come about. So the name of an array can always be told for a plural, and the words of
its key tell which form the ending takes. -/
namespace ClassMold.PluralNames
open CodePoint FieldNames Casing SharedNames

/-- A name in the plural: it ends in an `s`, small or capital, or it is a reserved word that ends
in a small one, with the guard behind it. -/
inductive IsPlural (name : Text) : Prop
  | small (last : name.getLast? = some (.scalar 's'))
  | capital (last : name.getLast? = some (.scalar 'S'))
  | guarded (word : Text) (reserved : word.isReserved = true) (last : word.getLast? = some (.scalar 's'))
      (covered : name = word ++ [underscore])

/-- The ending of a plural is a word of its own, behind others. An underscore in front is no
separator. -/
def EndingApart (chain : Text) : Prop := [underscore, .scalar 's'] <:+ chain.tail

instance : DecidablePred EndingApart := fun chain =>
  inferInstanceAs (Decidable ([underscore, .scalar 's'] <:+ chain.tail))

/-- A chain is a reserved word, as it stands or with a capital in front. -/
def SpellsReserved (chain : Text) : Prop :=
  ∃ word : Text, word.isReserved = true ∧ (chain = word ∨ chain = capitalized word)

variable {c x : CodePoint} {t chain word key : Text} {afterRun : Bool}

/-! ### Joining words -/

/-- The ending of a plural behind a part of its chain. -/
def endingBehind (front : Text) : CodePoint :=
  if front.getLast? = some underscore then .scalar 'S' else .scalar 's'

theorem ending_behind_cons (before : Text) (c : CodePoint) (t : Text) :
    endingBehind (before ++ c :: t) = endingBehind (c :: t) := by
  rw [endingBehind, List.getLast?_append_of_ne_nil _ (List.cons_ne_nil c t), endingBehind]

theorem ending_behind_other (other : c ≠ underscore) (t : Text) :
    endingBehind (c :: t) = endingBehind t := by
  cases t with
  | nil => simp [endingBehind, other]
  | cons d t => rw [endingBehind, List.getLast?_cons_cons, endingBehind]

/-- Joining words keeps the ending, and raises it behind a run of underscores. -/
theorem join_words_last (afterRun : Bool) (t : Text) :
    (joinWords afterRun (t ++ "s")).getLast? = some (endingBehind (passed afterRun ++ t)) := by
  -- As in `join_words_parts_iff`, the flag stands for an underscore in front.
  induction t generalizing afterRun with
  | nil => cases afterRun <;> decide +kernel
  | cons c t ih =>
    rw [List.cons_append, joinWords, ending_behind_cons]
    split
    · rename_i same
      rw [ih true, same]
      rfl
    · rename_i other
      rw [List.getLast?_append, ih false, ending_behind_other other]
      rfl

theorem ending_apart_iff (c : CodePoint) (t : Text) :
    EndingApart (c :: (t ++ "s")) ↔ t.getLast? = some underscore := by
  have parts : [underscore, .scalar 's'] = [underscore] ++ Text.ofString "s" := rfl
  rw [EndingApart, List.tail_cons, parts, List.suffix_append_self_iff,
    List.singleton_suffix_iff_getLast?_eq_some]

/-! ### The start of a name and its guards -/

theorem lower_start_cases (c : CodePoint) (t : Text) :
    lowerStart (c :: t) = c :: t ∨ (c.isUpper = true ∧ lowerStart (c :: t) = c.toLower ++ t) := by
  rw [lower_start_cons]
  split
  · rename_i lowered
    exact .inr ⟨lowered.1, rfl⟩
  · exact .inl rfl

/-- The start may be lowered, but what has an end behind it keeps that. -/
theorem lower_start_last (c : CodePoint) (last : t.getLast? = some x) :
    (lowerStart (c :: t)).getLast? = some x := by
  rcases lower_start_cases c t with kept | ⟨-, lowered⟩
  · rw [kept, List.getLast?_cons, last]
    rfl
  · rw [lowered, List.getLast?_append, last]
    rfl

/-- Before the guards every name of an array ends as its chain says. -/
theorem joined_last (key : Text) : (joined key true).getLast? =
    some (if EndingApart (words (plural key)) then .scalar 'S' else .scalar 's') := by
  obtain ⟨front, chain⟩ := plural_words_end key
  have made : joined key true = lowerStart (camelCase (words (plural key))) := rfl
  rw [made, chain]
  cases front with
  | nil => decide +kernel
  | cons c t =>
    rw [List.cons_append, camel_case_cons, lower_start_last c (join_words_last false t)]
    simp only [ending_apart_iff]
    rfl

theorem guarded_last (free : t.isReserved = false) (last : t.getLast? = some x) :
    (guarded t).getLast? = some x := by
  by_cases starts : StartsWithDigit t
  · rw [guarded_digit starts, List.getLast?_cons, last]
    rfl
  · rw [guarded_plain starts free]
    exact last

/-! ### Reserved words -/

/-- Joining yields nothing but small letters only where it changes nothing. -/
theorem join_words_small (small : ∀ d ∈ joinWords afterRun t, AsciiSmall d) :
    afterRun = false ∧ joinWords afterRun t = t := by
  induction t generalizing afterRun with
  | nil =>
    cases afterRun with
    | false => exact ⟨rfl, rfl⟩
    | true => exact absurd (small underscore List.mem_cons_self) (by decide)
  | cons c t ih =>
    rw [joinWords] at small ⊢
    split at small
    · cases (ih small).1
    · rename_i other
      obtain ⟨first, others⟩ := List.forall_mem_append.mp small
      cases afterRun with
      | false =>
        rw [if_neg other, (ih others).2]
        exact ⟨rfl, rfl⟩
      | true =>
        obtain ⟨d, rest, capital, large⟩ := upper_starts c
        exact absurd (first d (by simp [capital])) large

/-- What is lowered to the start of a reserved word is the capital of that start: the dot of the
one with a dot stays behind, and no reserved word starts like the small form of the Kelvin sign. -/
theorem capital_of_reserved (listed : word ∈ reservedWords) (upper : c.isUpper = true)
    (unmarked : ∀ d ∈ c.toLower.tail, AsciiSmall d) (lowered : c.toLower ++ t = word) :
    capitalized word = c :: t := by
  have starts : ∀ word ∈ reservedWords, ∀ x ∈ word.head?,
      x.val < 0x80 ∧ x.isUpper = false ∧ x ≠ .scalar 'k' := by decide +kernel
  obtain ⟨x, rest, shape⟩ := List.exists_cons_of_ne_nil (lower_nonempty c)
  rw [shape, List.cons_append] at lowered
  subst lowered
  obtain ⟨ascii, lower, other⟩ := starts _ listed x rfl
  rcases lower_ascii_cases shape ascii with rfl | ⟨capital, rfl⟩ | dotted | kelvin
  · exact absurd upper (by simp [lower])
  · rw [List.nil_append, capitalized, capital]
    rfl
  · obtain rfl : c = ofNat 0x130 := by rw [← dotted, of_nat_val]
    exact absurd unmarked (by decide +kernel)
  · obtain rfl : c = ofNat 0x212A := by rw [← kelvin, of_nat_val]
    have small : (ofNat 0x212A).toLower = [.scalar 'k'] := by decide +kernel
    exact absurd (List.cons.inj (shape.symm.trans small)).1 other

theorem spelled_of_joined (listed : word ∈ reservedWords) (joins : lowerStart (camelCase chain) = word) :
    chain = word ∨ chain = capitalized word := by
  have tails : ∀ word ∈ reservedWords, ∀ d ∈ word.tail, AsciiSmall d := by decide
  have small := tails word listed
  cases chain with
  | nil => exact .inl joins
  | cons c t =>
    rw [camel_case_cons] at joins
    rcases lower_start_cases c (joinWords false t) with kept | ⟨upper, lowered⟩
    · left
      rw [kept] at joins
      subst joins
      exact congrArg (c :: ·) (join_words_small small).2.symm
    · right
      rw [lowered] at joins
      rw [← joins, List.tail_append_of_ne_nil (lower_nonempty c)] at small
      obtain ⟨unmarked, others⟩ := List.forall_mem_append.mp small
      rw [(join_words_small others).2] at joins
      exact (capital_of_reserved listed upper unmarked joins).symm

/-- The words of a key come to a reserved word only where they spell one. -/
theorem joined_reserved_iff (chain : Text) :
    (lowerStart (camelCase chain)).isReserved = true ↔ SpellsReserved chain := by
  constructor
  · intro reserved
    exact ⟨_, reserved, spelled_of_joined (List.contains_iff_mem.mp reserved) rfl⟩
  · have table : ∀ word ∈ reservedWords, lowerStart (camelCase word) = word ∧
        lowerStart (camelCase (capitalized word)) = word := by decide +kernel
    rintro ⟨word, reserved, spelled⟩
    obtain ⟨plain, raised⟩ := table word (List.contains_iff_mem.mp reserved)
    rcases spelled with rfl | rfl
    · rwa [plain]
    · rwa [raised]

/-! ### Names of arrays -/

/-- No reserved word ends in a capital. -/
theorem reserved_ending (reserved : (joined key true).isReserved = true) :
    ¬ EndingApart (words (plural key)) := by
  have table : ∀ word ∈ reservedWords, word.getLast? ≠ some (.scalar 'S') := by decide
  intro apart
  have last := joined_last key
  rw [if_pos apart] at last
  exact table _ (List.contains_iff_mem.mp reserved) last

/-- The name of a field that holds an array is never empty and always in the plural, whatever the
key. It ends in a capital exactly if the ending is a word of its own, and in a guard exactly if the
words of the plural spell a reserved word. -/
theorem array_names_plural (key : Text) :
    fieldName key true ≠ [] ∧ IsPlural (fieldName key true) ∧
      ((fieldName key true).getLast? = some (.scalar 'S') ↔ EndingApart (words (plural key))) ∧
      ((fieldName key true).getLast? = some underscore ↔ SpellsReserved (words (plural key))) := by
  have nonempty : fieldName key true ≠ [] := by simp [field_name_nil_iff]
  have made : fieldName key true = guarded (joined key true) := rfl
  have spells := joined_reserved_iff (words (plural key))
  have last := joined_last key
  refine ⟨nonempty, ?_⟩
  cases reserved : (joined key true).isReserved with
  | true =>
    have small := reserved_ending reserved
    rw [if_neg small] at last
    rw [made, guarded_reserved reserved, List.getLast?_concat]
    exact ⟨.guarded _ reserved last rfl, iff_of_false (by decide) small,
      iff_of_true rfl (spells.mp reserved)⟩
  | false =>
    have free : ¬ SpellsReserved (words (plural key)) := mt spells.mpr (Bool.eq_false_iff.mp reserved)
    have ends := guarded_last reserved last
    rw [made]
    by_cases apart : EndingApart (words (plural key))
    · rw [if_pos apart] at ends
      rw [ends]
      exact ⟨.capital ends, iff_of_true rfl apart, iff_of_false (by decide) free⟩
    · rw [if_neg apart] at ends
      rw [ends]
      exact ⟨.small ends, iff_of_false (by decide) apart, iff_of_false (by decide) free⟩

/-- A key that ends in a separator, one that comes to a reserved word by its ending, and one that
identifiers can hold nothing of. -/
example : fieldName "my-" true = "myS" ∧ fieldName "Thi" true = "this_" ∧ fieldName "@#!" true = "s" := by
  decide +kernel

end ClassMold.PluralNames
