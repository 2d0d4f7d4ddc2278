import ClassMold.Proofs.Inference.Steps
import ClassMold.Proofs.Naming.FieldNames

/-! When two members get one name. Nothing keeps the names of a class apart, so two keys
meet wherever sanitizing leads them to the same text. For fields this happens when
their keys join to the same words, and else only by way of the underscore that guards a
digit or a reserved word; for classes when their keys give the same type name, and else
only by way of the ending that an array takes off. -/
namespace ClassMold.SharedNames
open Sample Steps FieldNames TypeNames

/-! ### Names of fields -/

/-- The words of a key in lower camel case, before the guards. -/
def joined (key : Text) (isArray : Bool) : Text := lowerStart (camelCase (words (numbered key isArray)))

/-- A text behind both guards. -/
def guarded (t : Text) : Text := guardReserved (guardDigit t)

/-- A text that needs the guard in front. -/
def StartsWithDigit (t : Text) : Prop := ∃ c ∈ t.head?, c.isDecimalDigit = true

/-- A guard makes the second text of the first. -/
def GuardedAs (t u : Text) : Prop :=
  (StartsWithDigit t ∧ u = underscore :: t) ∨ (t.isReserved = true ∧ u = t ++ [underscore])

variable {t u : Text}

theorem underscore_no_digit (t : Text) : ¬ StartsWithDigit (underscore :: t) := by
  rintro ⟨c, first, digit⟩
  obtain rfl : underscore = c := Option.some.inj first
  exact absurd digit (by decide)

theorem reserved_start (reserved : t.isReserved = true) : ¬ StartsWithDigit t := by
  have table : ∀ word ∈ reservedWords, word.head?.any CodePoint.isDecimalDigit = false := by
    decide
  have plain := table t (List.contains_iff_mem.mp reserved)
  rintro ⟨c, first, digit⟩
  rw [Option.mem_def.mp first] at plain
  simp [digit] at plain

/-- A lone underscore is the only reserved word that starts with one. -/
theorem reserved_underscore_start (reserved : Text.isReserved (underscore :: t) = true) : t = [] := by
  have table : ∀ word ∈ reservedWords, word.head? = some underscore → word = [underscore] := by decide
  have alone := table _ (List.contains_iff_mem.mp reserved) rfl
  exact (List.cons.inj alone).2

theorem digit_front_free (starts : StartsWithDigit t) : Text.isReserved (underscore :: t) = false := by
  refine Bool.eq_false_iff.mpr fun reserved => ?_
  obtain ⟨c, first, -⟩ := starts
  simp [reserved_underscore_start reserved] at first

theorem guarded_plain (starts : ¬ StartsWithDigit t) (free : t.isReserved = false) : guarded t = t := by
  cases t with
  | nil => rfl
  | cons c t =>
    have other : c.isDecimalDigit = false := by simpa [StartsWithDigit] using starts
    simp [guarded, guardDigit, guardReserved, other, free]

theorem guarded_digit (starts : StartsWithDigit t) : guarded t = underscore :: t := by
  have free := digit_front_free starts
  obtain ⟨c, first, digit⟩ := starts
  obtain ⟨rest, rfl⟩ := List.head?_eq_some_iff.mp first
  simp [guarded, guardDigit, guardReserved, digit, free]

theorem guarded_reserved (reserved : t.isReserved = true) : guarded t = t ++ [underscore] := by
  cases t with
  | nil => exact absurd rfl (reserved_nonempty reserved)
  | cons c t =>
    have other : c.isDecimalDigit = false := by
      simpa [StartsWithDigit] using reserved_start reserved
    simp [guarded, guardDigit, guardReserved, other, reserved]

/-- The guards leave alone what one of them has made. -/
theorem guarded_as_same (made : GuardedAs t u) : guarded t = guarded u := by
  rcases made with ⟨starts, rfl⟩ | ⟨reserved, rfl⟩
  · rw [guarded_digit starts, guarded_plain (underscore_no_digit t) (digit_front_free starts)]
  · have starts : ¬ StartsWithDigit (t ++ [underscore]) := by
      cases t with
      | nil => exact absurd rfl (reserved_nonempty reserved)
      | cons c t => exact fun ⟨d, first, digit⟩ => reserved_start reserved ⟨d, first, digit⟩
    rw [guarded_reserved reserved, guarded_plain starts (reserved_underscore reserved)]

/-- What one guard puts in front is not what the other leaves in front. -/
theorem guards_apart (starts : StartsWithDigit t) (reserved : u.isReserved = true) :
    guarded t ≠ guarded u := by
  rw [guarded_digit starts, guarded_reserved reserved]
  intro same
  cases u with
  | nil => exact absurd rfl (reserved_nonempty reserved)
  | cons c u =>
    obtain ⟨rfl, rest⟩ := List.cons.inj same
    obtain rfl := reserved_underscore_start reserved
    subst rest
    exact underscore_no_digit [] starts

/-- Two texts are the same behind the guards if they were before, or if a guard makes
one of them of the other. -/
theorem guarded_same_iff (t u : Text) :
    guarded t = guarded u ↔ t = u ∨ GuardedAs t u ∨ GuardedAs u t := by
  constructor
  · intro same
    by_cases digitT : StartsWithDigit t <;> by_cases digitU : StartsWithDigit u
    · rw [guarded_digit digitT, guarded_digit digitU] at same
      exact .inl (List.cons.inj same).2
    · cases reservedU : u.isReserved with
      | true => exact absurd same (guards_apart digitT reservedU)
      | false =>
        rw [guarded_digit digitT, guarded_plain digitU reservedU] at same
        exact .inr (.inl (.inl ⟨digitT, same.symm⟩))
    · cases reservedT : t.isReserved with
      | true => exact absurd same.symm (guards_apart digitU reservedT)
      | false =>
        rw [guarded_digit digitU, guarded_plain digitT reservedT] at same
        exact .inr (.inr (.inl ⟨digitU, same⟩))
    · cases reservedT : t.isReserved <;> cases reservedU : u.isReserved
      · rw [guarded_plain digitT reservedT, guarded_plain digitU reservedU] at same
        exact .inl same
      · rw [guarded_plain digitT reservedT, guarded_reserved reservedU] at same
        exact .inr (.inr (.inr ⟨reservedU, same⟩))
      · rw [guarded_reserved reservedT, guarded_plain digitU reservedU] at same
        exact .inr (.inl (.inr ⟨reservedT, same.symm⟩))
      · rw [guarded_reserved reservedT, guarded_reserved reservedU] at same
        exact .inl (List.append_cancel_right same)
  · rintro (rfl | made | made)
    · rfl
    · exact guarded_as_same made
    · exact (guarded_as_same made).symm

/-- The name that the field of a member gets. -/
def memberName (member : Text × Sample) : Text := fieldName member.1 (member.2.arrayDepth > 0)

/-- The words of a member's key, in the plural where it holds an array. -/
def memberWords (member : Text × Sample) : Text := joined member.1 (member.2.arrayDepth > 0)

/-- The keys of two members lead to one field name: their words are the same, or differ
by the underscore of a guard. -/
def NamesMeet (member other : Text × Sample) : Prop :=
  memberWords member = memberWords other ∨ GuardedAs (memberWords member) (memberWords other) ∨
    GuardedAs (memberWords other) (memberWords member)

theorem names_meet_iff (member other : Text × Sample) :
    memberName member = memberName other ↔ NamesMeet member other :=
  guarded_same_iff (memberWords member) (memberWords other)

/-! ### Names of accessors -/

/-- The first name is the second one with its first letter raised, up to the first
letter of its own. A capital may be of several letters, and then covers more than one. -/
def RaisedAs (name other : Text) : Prop :=
  ∃ c d covered rest, name = c :: (covered ++ rest) ∧ other = d :: rest ∧ d.toUpper = c.toUpper ++ covered

/-- The accessors of two members are named alike: the names of the fields are the same,
or differ by letters at their start that have one capital. -/
def AccessorsMeet (member other : Text × Sample) : Prop :=
  memberName member = memberName other ∨ RaisedAs (memberName member) (memberName other) ∨
    RaisedAs (memberName other) (memberName member)

theorem raised_as_same (raised : RaisedAs t u) : capitalized t = capitalized u := by
  obtain ⟨c, d, covered, rest, rfl, rfl, capital⟩ := raised
  rw [capitalized, capitalized, capital, List.append_assoc]

theorem capitalized_same_iff (t u : Text) :
    capitalized t = capitalized u ↔ t = u ∨ RaisedAs t u ∨ RaisedAs u t := by
  constructor
  · intro same
    cases t with
    | nil =>
      cases u with
      | nil => exact .inl rfl
      | cons d u => exact absurd same.symm (by simp [capitalized, upper_nonempty])
    | cons c t =>
      cases u with
      | nil => exact absurd same (by simp [capitalized, upper_nonempty])
      | cons d u =>
        rcases List.append_eq_append_iff.mp same with ⟨covered, capital, rfl⟩ | ⟨covered, capital, rfl⟩
        · exact .inr (.inl ⟨c, d, covered, u, rfl, rfl, capital⟩)
        · exact .inr (.inr ⟨d, c, covered, t, rfl, rfl, capital⟩)
  · rintro (rfl | raised | raised)
    · rfl
    · exact raised_as_same raised
    · exact (raised_as_same raised).symm

theorem accessors_meet_iff (member other : Text × Sample) :
    capitalized (memberName member) = capitalized (memberName other) ↔ AccessorsMeet member other :=
  capitalized_same_iff (memberName member) (memberName other)

/-! ### Names of classes -/

/-- A member whose class is named without the ending of its type name. -/
def DropsEnding (member : Text × Sample) : Prop :=
  0 < member.2.arrayDepth ∧ Text.endsWith (typeName member.1) "s" = true

/-- One member drops an ending that the other, which is named alike, does not have. -/
def EndingMeets (member other : Text × Sample) : Prop :=
  DropsEnding member ∧ ¬ DropsEnding other ∧ typeName member.1 = typeName other.1 ++ "s"

/-- The keys of two members lead to one class name: their type names are the same, and
are treated alike, or differ by an ending that is dropped. -/
def ClassesMeet (member other : Text × Sample) : Prop :=
  ((DropsEnding member ↔ DropsEnding other) ∧ typeName member.1 = typeName other.1) ∨
    EndingMeets member other ∨ EndingMeets other member

/-- The name of the class that a member leads to. -/
def memberClass (member : Text × Sample) : Text := elementName member.1 member.2

theorem dropped_ending {member : Text × Sample} (drops : DropsEnding member) :
    typeName member.1 = memberClass member ++ "s" := by
  obtain ⟨array, ending⟩ := drops
  have stripped : memberClass member = (typeName member.1).dropLast := by
    simp [memberClass, elementName, memberField, Field.className, Field.isArray, array, singular, ending]
  obtain ⟨front, whole⟩ := List.isSuffixOf_iff_suffix.mp ending
  rw [stripped, ← whole]
  exact congrArg (· ++ _) List.dropLast_concat.symm

theorem kept_ending {member : Text × Sample} (keeps : ¬ DropsEnding member) :
    memberClass member = typeName member.1 := by
  by_cases array : 0 < member.2.arrayDepth
  · have ending : Text.endsWith (typeName member.1) "s" = false :=
      Bool.eq_false_iff.mpr fun ending => keeps ⟨array, ending⟩
    simp [memberClass, elementName, memberField, Field.className, Field.isArray, singular, ending]
  · simp [memberClass, elementName, memberField, Field.className, Field.isArray, array]

theorem classes_meet_iff (member other : Text × Sample) :
    memberClass member = memberClass other ↔ ClassesMeet member other := by
  by_cases drops : DropsEnding member <;> by_cases drop : DropsEnding other
  · simp [ClassesMeet, EndingMeets, drops, drop, dropped_ending drops, dropped_ending drop]
  · simp [ClassesMeet, EndingMeets, drops, drop, dropped_ending drops, kept_ending drop]
  · simp [ClassesMeet, EndingMeets, drops, drop, kept_ending drops, dropped_ending drop, eq_comm]
  · simp [ClassesMeet, EndingMeets, drops, drop, kept_ending drops, kept_ending drop]

end ClassMold.SharedNames
