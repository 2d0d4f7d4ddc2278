import ClassMold.Field
import ClassMold.Proofs.Text.Casing

/-! Which fixed type a name made from a key can be mistaken for. Such a name
never starts with a small letter, so the primitive types are out of reach. The
two library types are not: a key can spell one outright, and the name of an
array's element can become one when its plural ending is taken off. -/
namespace ClassMold.TypeNames
open Casing

/-- The types that a declaration can name without a class of that name. -/
def fixedTypes : List Text := ["boolean", "int", "float", "String", "Object"]

theorem fixed_types_are_scalars : fixedTypes = ScalarType.all.map ScalarType.name := rfl

theorem custom_iff_not_fixed (name : Text) : isCustomType name = true ↔ name ∉ fixedTypes := by
  rw [fixed_types_are_scalars]
  simp [isCustomType, ScalarType.named?]

theorem named_type {name : Text} {type : ScalarType} (named : ScalarType.named? name = some type) :
    type.name = name := by
  simpa using List.find?_some named

theorem unnamed_type {name : Text} (unnamed : ScalarType.named? name = none) : name ∉ fixedTypes :=
  (custom_iff_not_fixed name).mp (by simp [isCustomType, unnamed])

theorem scalar_is_fixed (type : ScalarType) : type.name ∈ fixedTypes := by
  cases type <;> decide

theorem capitalized_start {name rest : Text} {first : CodePoint}
    (shape : capitalizeFirstLetter name = first :: rest) : ¬ AsciiSmall first := by
  cases name with
  | nil => cases shape
  | cons c tail =>
    by_cases letter : c.isLetter = true
    · obtain ⟨raised, others, upper, large⟩ := upper_starts c
      simp only [capitalizeFirstLetter, letter, ↓reduceIte, upper, List.cons_append,
        List.cons.injEq] at shape
      exact shape.1 ▸ large
    · -- Only a letter can be small, and this one stays in front as it is.
      have same : first = c := by
        simp only [capitalizeFirstLetter, letter, Bool.false_eq_true, ↓reduceIte] at shape
        split at shape <;> exact (List.cons.inj shape).1.symm
      exact fun small => letter (letter_of_small (same ▸ small))

/-- A name made from a key never starts with a small letter. -/
theorem type_name_start {key rest : Text} {first : CodePoint}
    (shape : typeName key = first :: rest) : ¬ AsciiSmall first :=
  capitalized_start shape

theorem type_name_ne_small (key name : Text) (small : ∃ first ∈ name.head?, AsciiSmall first) :
    typeName key ≠ name := by
  intro same
  obtain ⟨first, starts, small⟩ := small
  obtain ⟨rest, shape⟩ := List.head?_eq_some_iff.mp starts
  exact type_name_start (same.trans shape) small

/-- Among the fixed types a key can only spell the two of the library. -/
theorem fixed_type_name_iff (key : Text) :
    typeName key ∈ fixedTypes ↔ typeName key = "String" ∨ typeName key = "Object" := by
  have boolean := type_name_ne_small key "boolean" (by decide)
  have int := type_name_ne_small key "int" (by decide)
  have float := type_name_ne_small key "float" (by decide)
  simp only [fixedTypes, List.mem_cons, List.not_mem_nil, or_false, boolean, int, float, false_or]

/-- A singular is the name itself or the name without its ending. -/
theorem singular_cases (name : Text) : singular name = name ∨ name = singular name ++ "s" := by
  by_cases ending : Text.endsWith name "s" = true
  · right
    obtain ⟨front, whole⟩ := List.isSuffixOf_iff_suffix.mp ending
    have stripped : name.dropLast = front := by
      rw [← whole]
      exact List.dropLast_concat
    simp only [singular, ending, ↓reduceIte, stripped]
    exact whole.symm
  · left
    simp [singular, ending]

/-- Without its ending a name starts as before. -/
theorem singular_start {key rest : Text} {first : CodePoint}
    (shape : singular (typeName key) = first :: rest) : ¬ AsciiSmall first := by
  rcases singular_cases (typeName key) with same | whole
  · exact type_name_start (same.symm.trans shape)
  · rw [shape, List.cons_append] at whole
    exact type_name_start whole

/-- Taking the ending off leads to a fixed type from two names only. -/
theorem fixed_singular_iff (key : Text) (custom : typeName key ∉ fixedTypes) :
    singular (typeName key) ∈ fixedTypes ↔ typeName key = "Strings" ∨ typeName key = "Objects" := by
  have booleans := type_name_ne_small key ("boolean" ++ "s") (by decide)
  have ints := type_name_ne_small key ("int" ++ "s") (by decide)
  have floats := type_name_ne_small key ("float" ++ "s") (by decide)
  constructor
  · intro taken
    rcases singular_cases (typeName key) with same | whole
    · rw [same] at taken
      exact absurd taken custom
    · simp only [fixedTypes, List.mem_cons, List.not_mem_nil, or_false] at taken
      rcases taken with name | name | name | name | name <;> rw [name] at whole
      · exact absurd whole booleans
      · exact absurd whole ints
      · exact absurd whole floats
      · exact .inl whole
      · exact .inr whole
  · rintro (same | same) <;> rw [same] <;> decide

end ClassMold.TypeNames
