import Mathlib.Data.List.Basic
import ClassMold.Proofs.Naming.FieldNames

/-! How the name of a field comes of the words of its key. Sanitizing goes through the key
as a whole, in several passes; what comes out depends on the words alone, and not on what
stands between them or in front. So the name can be told word by word: the first one as it
is, the others with a capital, and then what the start and the reserved words ask for. -/
namespace ClassMold.WordNames
open FieldNames

/-! ### Keys of words -/

/-- A word of a key: code points that identifiers can hold, but no underscore. -/
structure IsKeyWord (word : Text) : Prop where
  nonempty : word ≠ []
  parts : AllParts word
  joined : underscore ∉ word

/-- What separates words: underscores and whatever identifiers cannot hold. -/
structure IsSeparator (separator : Text) : Prop where
  nonempty : separator ≠ []
  marks : ∀ c ∈ separator, c = underscore ∨ c.continuesIdentifier = false

instance : DecidablePred IsKeyWord := fun word =>
  decidable_of_iff (word ≠ [] ∧ (∀ c ∈ word, c.continuesIdentifier = true) ∧ underscore ∉ word)
    ⟨fun ⟨nonempty, parts, joined⟩ => ⟨nonempty, parts, joined⟩,
      fun good => ⟨good.nonempty, good.parts, good.joined⟩⟩

instance : DecidablePred IsSeparator := fun separator =>
  decidable_of_iff (separator ≠ [] ∧ ∀ c ∈ separator, c = underscore ∨ c.continuesIdentifier = false)
    ⟨fun ⟨nonempty, marks⟩ => ⟨nonempty, marks⟩, fun good => ⟨good.nonempty, good.marks⟩⟩

/-- The words of a chain behind the first one, each behind its separator. -/
def behind (others : List (Text × Text)) : Text := others.flatMap fun part => part.1 ++ part.2

/-! ### Names of words -/

/-- A word, in the plural if it is the last one of an array's key. -/
def inNumber (isArray : Bool) (word : Text) : Text :=
  if isArray && word.getLast? != some (.scalar 's') then word ++ "s" else word

/-- The words of a name, the last one in the plural for an array. -/
def numberedWords (isArray : Bool) (words : List Text) : List Text :=
  words.dropLast ++ words.getLast?.toList.map (inNumber isArray)

/-- The first word as it is, and the others with a capital. -/
def together : List Text → Text
  | [] => []
  | first :: others => first ++ others.flatMap capitalized

/-- A name with a small letter in front, unless it starts with two capitals. -/
def smallStart (name : Text) : Text :=
  if (name.take 1).any CodePoint.isUpper && !((name.drop 1).take 1).any CodePoint.isUpper then
    (name.take 1).flatMap CodePoint.toLower ++ name.drop 1
  else name

/-- A name with an underscore in front of a digit that it starts with, and one behind it if it is
a reserved word then. -/
def withGuards (name : Text) : Text :=
  let name := if (name.take 1).any CodePoint.isDecimalDigit then underscore :: name else name
  if reservedWords.contains name then name ++ [underscore] else name

/-- The name that some words make for a field. -/
def nameOfWords (isArray : Bool) (words : List Text) : Text :=
  withGuards (smallStart (together (numberedWords isArray words)))

variable {word first rest p separator key : Text} {others : List (Text × Text)} {isArray : Bool}

/-! ### Joining words -/

theorem join_words_word (plain : underscore ∉ word) (rest : Text) :
    joinWords false (word ++ rest) = word ++ joinWords false rest := by
  induction word with
  | nil => rfl
  | cons c word ih =>
    obtain ⟨other, others⟩ := not_or.mp (mt List.mem_cons.mpr plain)
    rw [List.cons_append, joinWords, if_neg (Ne.symm other), ih others]
    rfl

/-- Behind a run of underscores a word is raised. -/
theorem join_words_raised (word' : IsKeyWord word) (rest : Text) :
    joinWords true (word ++ rest) = capitalized word ++ joinWords false rest := by
  cases word with
  | nil => exact absurd rfl word'.nonempty
  | cons c word =>
    obtain ⟨other, others⟩ := not_or.mp (mt List.mem_cons.mpr word'.joined)
    rw [List.cons_append, joinWords, if_neg (Ne.symm other), join_words_word others, capitalized,
      List.append_assoc]
    rfl

theorem join_words_run (n : Nat) (afterRun : Bool) (rest : Text) :
    joinWords afterRun (List.replicate (n + 1) underscore ++ rest) = joinWords true rest := by
  induction n generalizing afterRun with
  | zero => simp [joinWords]
  | succ n ih => rw [List.replicate_succ, List.cons_append, joinWords, if_pos rfl, ih]

/-- A code point of a key as it stands in the chain of words. -/
def inChain (c : CodePoint) : CodePoint := if c.continuesIdentifier then c else underscore

theorem chain_word (parts : AllParts word) : word.map inChain = word :=
  (List.map_congr_left fun c listed => if_pos (parts c listed)).trans (List.map_id word)

theorem chain_separator (good : IsSeparator separator) :
    ∃ n, separator.map inChain = List.replicate (n + 1) underscore := by
  obtain ⟨n, count⟩ := Nat.exists_eq_succ_of_ne_zero (mt List.length_eq_zero_iff.mp good.nonempty)
  refine ⟨n, List.eq_replicate_iff.mpr ⟨by rw [List.length_map, count], ?_⟩⟩
  refine List.forall_mem_map.mpr fun c listed => ?_
  rcases good.marks c listed with rfl | other
  · exact if_pos underscore_part
  · exact if_neg (Bool.eq_false_iff.mp other)

/-- The words behind the first one are raised one by one. -/
theorem join_words_behind (separated : ∀ part ∈ others, IsSeparator part.1 ∧ IsKeyWord part.2) :
    joinWords false ((behind others).map inChain) = (others.map Prod.snd).flatMap capitalized := by
  induction others with
  | nil => rfl
  | cons part others ih =>
    obtain ⟨⟨separator, word⟩, rest⟩ := List.forall_mem_cons.mp separated
    obtain ⟨n, run⟩ := chain_separator separator
    have shape : (behind (part :: others)).map inChain =
        List.replicate (n + 1) underscore ++ (part.2 ++ (behind others).map inChain) := by
      simp [behind, run, chain_word word.parts]
    rw [shape, join_words_run, join_words_raised word, ih rest, List.map_cons, List.flatMap_cons]

/-- What identifiers cannot hold in front of the first word is passed over. -/
theorem words_chain (unread : ∀ c ∈ p, c.continuesIdentifier = false) (starts : IsKeyWord first)
    (rest : Text) : words (p ++ (first ++ rest)) = first ++ rest.map inChain := by
  obtain ⟨c, word, rfl⟩ := List.exists_cons_of_ne_nil starts.nonempty
  have dropped : (p ++ (c :: word ++ rest)).dropWhile (!·.continuesIdentifier) = c :: word ++ rest := by
    rw [List.dropWhile_append_of_pos fun c listed => by simp [unread c listed]]
    simp [(all_parts_cons.mp starts.parts).1]
  rw [words, dropped, List.map_append]
  exact congrArg (· ++ _) (chain_word starts.parts)

theorem camel_case_word (starts : IsKeyWord first) (rest : Text) :
    camelCase (first ++ rest) = first ++ joinWords false rest := by
  obtain ⟨c, word, rfl⟩ := List.exists_cons_of_ne_nil starts.nonempty
  obtain ⟨-, others⟩ := not_or.mp (mt List.mem_cons.mpr starts.joined)
  rw [List.cons_append, camel_case_cons, join_words_word others, List.cons_append]

theorem camel_case_chain (unread : ∀ c ∈ p, c.continuesIdentifier = false) (starts : IsKeyWord first)
    (separated : ∀ part ∈ others, IsSeparator part.1 ∧ IsKeyWord part.2) :
    camelCase (words (p ++ (first ++ behind others))) = together (first :: others.map Prod.snd) := by
  rw [words_chain unread starts, camel_case_word starts, join_words_behind separated, together]

/-! ### Numbers -/

theorem in_number_word (good : IsKeyWord word) (isArray : Bool) : IsKeyWord (inNumber isArray word) := by
  have ending : IsKeyWord "s" := ⟨by decide, by unfold AllParts; decide, by decide⟩
  unfold inNumber
  split
  · exact ⟨List.append_ne_nil_of_left_ne_nil good.nonempty _, all_parts_append.mpr ⟨good.parts, ending.parts⟩,
      fun listed => (List.mem_append.mp listed).elim good.joined ending.joined⟩
  · exact good

theorem ends_with_s_iff (front : Text) (nonempty : word ≠ []) :
    Text.endsWith (front ++ word) "s" = true ↔ word.getLast? = some (.scalar 's') := by
  obtain ⟨start, last, rfl⟩ := (List.eq_nil_or_concat' word).resolve_left nonempty
  rw [Text.endsWith, List.isSuffixOf_iff_suffix, ← List.append_assoc, List.getLast?_concat, Option.some.injEq]
  constructor
  · rintro ⟨before, same⟩
    exact (List.singleton_inj.mp (List.append_inj' same rfl).2).symm
  · rintro rfl
    exact List.suffix_append _ _

/-- A key takes the number of its last word. -/
theorem numbered_last (front : Text) (nonempty : word ≠ []) (isArray : Bool) :
    numbered (front ++ word) isArray = front ++ inNumber isArray word := by
  have ending := ends_with_s_iff front nonempty
  cases isArray with
  | false => rfl
  | true =>
    by_cases ends : word.getLast? = some (.scalar 's')
    · simp [numbered, plural, inNumber, ending.mpr ends, ends]
    · have open' := Bool.eq_false_iff.mpr (mt ending.mp ends)
      simp [numbered, plural, inNumber, open', ends]

/-! ### Starts and reserved words -/

theorem small_start_eq (name : Text) : smallStart name = lowerStart name := by
  match name with
  | [] => rfl
  | [c] => cases upper : c.isUpper <;> simp [smallStart, lowerStart, upper]
  | c :: d :: rest => simp [smallStart, lowerStart]

theorem with_guards_eq (name : Text) : withGuards name = guardReserved (guardDigit name) := by
  cases name with
  | nil => simp [withGuards, guardDigit, guardReserved, Text.isReserved]
  | cons c name =>
    cases digit : c.isDecimalDigit <;> simp [withGuards, guardDigit, guardReserved, Text.isReserved, digit]

/-! ### Keys -/

theorem numbered_words_last (front : List Text) (isArray : Bool) :
    numberedWords isArray (front ++ [word]) = front ++ [inNumber isArray word] := by
  simp [numberedWords]

/-- A chain of words with the last one in its number. -/
theorem numbered_chain (starts : IsKeyWord first)
    (separated : ∀ part ∈ others, IsSeparator part.1 ∧ IsKeyWord part.2) (p : Text) (isArray : Bool) :
    ∃ first' others', IsKeyWord first' ∧ (∀ part ∈ others', IsSeparator part.1 ∧ IsKeyWord part.2) ∧
      numbered (p ++ (first ++ behind others)) isArray = p ++ (first' ++ behind others') ∧
      numberedWords isArray (first :: others.map Prod.snd) = first' :: others'.map Prod.snd := by
  rcases List.eq_nil_or_concat' others with rfl | ⟨front, ⟨separator, word⟩, rfl⟩
  · refine ⟨inNumber isArray first, [], in_number_word starts isArray, List.forall_mem_nil _, ?_,
      numbered_words_last [] isArray⟩
    simpa [behind] using numbered_last p starts.nonempty isArray
  · obtain ⟨before, ended⟩ := List.forall_mem_append.mp separated
    obtain ⟨marks, last⟩ := List.forall_mem_singleton.mp ended
    refine ⟨first, front ++ [(separator, inNumber isArray word)], starts, ?_, ?_, ?_⟩
    · exact List.forall_mem_append.mpr
        ⟨before, List.forall_mem_singleton.mpr ⟨marks, in_number_word last isArray⟩⟩
    · simpa [behind] using numbered_last (p ++ (first ++ (behind front ++ separator))) last.nonempty isArray
    · simpa using numbered_words_last (first :: front.map Prod.snd) isArray

/-- The name of a field is told by the words of its key, whatever separates them and stands in
front: the last word takes the plural for an array, the words are put together in camel
case, the first letter is small unless two capitals stand there, and an underscore guards a
digit in front and a reserved word. -/
theorem name_told_by_words (p first : Text) (others : List (Text × Text)) (isArray : Bool)
    (unread : ∀ c ∈ p, c.continuesIdentifier = false) (starts : IsKeyWord first)
    (separated : ∀ part ∈ others, IsSeparator part.1 ∧ IsKeyWord part.2) :
    fieldName (p ++ (first ++ behind others)) isArray =
      nameOfWords isArray (first :: others.map Prod.snd) := by
  obtain ⟨first', others', starts', separated', key, names⟩ := numbered_chain starts separated p isArray
  calc fieldName (p ++ (first ++ behind others)) isArray
      = guardReserved (guardDigit (lowerStart (camelCase (words
          (numbered (p ++ (first ++ behind others)) isArray))))) := rfl
    _ = withGuards (smallStart (together (first' :: others'.map Prod.snd))) := by
        rw [key, camel_case_chain unread starts' separated', small_start_eq, with_guards_eq]
    _ = nameOfWords isArray (first :: others.map Prod.snd) := by rw [nameOfWords, names]

/-- Three words that are separated in two ways: the second one starts with a digit, the capital of
the third one is of two letters, and it takes the plural. -/
theorem separators_do_not_count :
    fieldName ("- " ++ ("Line" ++ behind [("_-_", "2nd"), ("\u2028", "ßa")])) true = "line2ndSSas" ∧
      fieldName ("" ++ ("Line" ++ behind [(" ", "2nd"), ("__", "ßa")])) true = "line2ndSSas" := by
  have named : nameOfWords true ["Line", "2nd", "ßa"] = "line2ndSSas" := by decide +kernel
  constructor
  · exact (name_told_by_words "- " "Line" [("_-_", "2nd"), ("\u2028", "ßa")] true (by decide +kernel)
      (by decide +kernel) (by decide +kernel)).trans named
  · exact (name_told_by_words "" "Line" [(" ", "2nd"), ("__", "ßa")] true (by decide +kernel)
      (by decide +kernel) (by decide +kernel)).trans named

end ClassMold.WordNames
