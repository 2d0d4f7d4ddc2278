import ClassMold.Proofs.Naming.NormalNames
import ClassMold.Proofs.Source.DeclaredOnce

/-! The method that no class may declare. Every object has a final method `getClass`, and an
accessor would take its name only if its field were called `class` or `Class`: no other letter
has the capital in question. The first is reserved, so it is guarded; the second starts with
a single capital that has a small form, so it is lowered. No key leads around these two. -/
namespace ClassMold.FinalMethods
open CodePoint Casing Sample Steps Mirroring Members Signatures DeclaredOnce NormalNames

/-- The name of the final method that every object has. -/
def finalMethod : Text := "getClass"

/-- What is left of it behind the word for reading a field. -/
def finalAccessor : Text := "Class"

variable {c : CodePoint} {name rest : Text} {key : Text} {value : Sample} {f : Field} {d : ClassTree}
  {depth : Int} {members : List (Text × Sample)} {fields : List Field} {nested : List ClassTree}

/-! ### Letters with the capital `C` -/

theorem placed_eq {n : Nat} {character : Char} (ascii : character.toNat < 0x80)
    (placed : ofNat n = .scalar character) : n = character.toNat := by
  have number := congrArg CodePoint.val placed
  rcases val_of_nat n with same | replaced
  · exact same.symm.trans number
  · rw [replaced] at number
    simp only [CodePoint.val] at number
    omega

/-- No sequence begins with this capital, and no shift leads there but the one from its small form. -/
theorem capital_from (raised : c.toUpper = .scalar 'C' :: rest) : c = .scalar 'c' ∨ c = .scalar 'C' := by
  have noSequence : ∀ entry ∈ toUpperSequences, entry.2.head? ≠ some 'C'.toNat := by decide
  have oneShift : ∀ entry ∈ toUpperShifts,
      entry.1.holds ('C'.toNat - entry.2).toNat = true → 'C'.toNat - entry.2 = 'c'.toNat := by
    decide +kernel
  unfold toUpper at raised
  rcases map_case_cases toUpperSequences toUpperShifts c with
    ⟨entry, found, answer⟩ | ⟨-, ⟨entry, listed, held, answer⟩ | ⟨-, answer⟩⟩ <;> rw [answer] at raised
  · obtain ⟨n, others, sequence, placed, -⟩ := List.map_eq_cons_iff.mp raised
    have first := noSequence entry (List.mem_of_find?_eq_some found)
    rw [sequence, List.head?_cons, placed_eq (by decide) placed] at first
    exact absurd rfl first
  · left
    have reached := placed_eq (by decide) (List.cons.inj raised).1
    have back : 'C'.toNat - entry.2 = c.val := by
      have positive : 'C'.toNat = 67 := rfl
      omega
    have number := oneShift entry listed (by rw [back, Int.toNat_natCast]; exact held)
    have val : c.val = 'c'.toNat := by omega
    cases c with
    | scalar character => exact congrArg _ (Char.toNat_inj.mp val)
    | surrogate offset =>
      simp only [CodePoint.val] at val
      have small : 'c'.toNat = 99 := rfl
      omega
  · exact .inr (List.cons.inj raised).1

/-- Two names only are raised to this one. -/
theorem raised_to_final (raised : capitalized name = finalAccessor) :
    name = "class" ∨ name = "Class" := by
  cases name with
  | nil => cases raised
  | cons c name =>
    obtain ⟨first, others, upper, -⟩ := upper_starts c
    rw [capitalized, upper, List.cons_append] at raised
    obtain ⟨rfl, -⟩ := List.cons.inj raised
    have own : (CodePoint.scalar 'c').toUpper = [.scalar 'C'] ∧
        (CodePoint.scalar 'C').toUpper = [.scalar 'C'] := by decide +kernel
    rcases capital_from upper with rfl | rfl
    · rw [own.1] at upper
      cases upper
      exact .inl (congrArg _ (List.cons.inj raised).2)
    · rw [own.2] at upper
      cases upper
      exact .inr (congrArg _ (List.cons.inj raised).2)

/-! ### Fields -/

/-- Neither of the two is in lower camel case. -/
theorem lower_camel_not_final (normal : LowerCamel name) : capitalized name ≠ finalAccessor := by
  intro raised
  rcases raised_to_final raised with rfl | rfl
  · exact absurd normal.free (by decide)
  · exact absurd normal.small (by decide +kernel)

theorem field_name_not_final (key : Text) (isArray : Bool) :
    capitalized (fieldName key isArray) ≠ finalAccessor :=
  lower_camel_not_final (field_name_lower_camel key isArray)

/-! ### Methods -/

/-- In a tree every field is named for a member, so none is named for the final method. -/
theorem built_not_final (built : Built depth members fields nested) :
    ∀ f ∈ fields, f.accessorName ≠ finalAccessor := by
  intro f listed
  have named : f.name ∈ fields.map Field.name := List.mem_map_of_mem listed
  rw [built_field_names built] at named
  obtain ⟨member, -, same⟩ := List.mem_map.mp named
  rw [Field.accessorName, ← same]
  exact field_name_not_final _ _

theorem accessor_not_final (options : OutputOptions) (other : f.accessorName ≠ finalAccessor) :
    finalMethod ∉ accessorNames options f := by
  have getter : Text.ofString "get" ++ f.accessorName ≠ finalMethod := fun same =>
    other (List.append_cancel_left (same.trans (by rfl : finalMethod = Text.ofString "get" ++ finalAccessor)))
  have setter : Text.ofString "set" ++ f.accessorName ≠ finalMethod := fun same =>
    absurd (List.cons.inj same).1 (by decide)
  unfold accessorNames
  cases options.getters <;> cases options.setters <;> simp [getter.symm, setter.symm]

/-- No key gives a field whose accessor takes the name of the final method, and no class that is
inferred declares a method of that name, whatever the sample, the class name and the options. -/
theorem no_accessor_is_final :
    (∀ key isArray, capitalized (fieldName key isArray) ≠ "Class") ∧
      (∀ key value f, Field.ofMember key value = .ok f → f.accessorName ≠ "Class") ∧
      ∀ name depth sample c, (inferClass name depth sample).outcome = .ok c → ∀ d ∈ c.walk,
        ∀ options body, ReadAs options d body →
          ∀ method ∈ body.accessors, methodName method.1 ≠ "getClass" := by
  refine ⟨field_name_not_final, fun key value f made => ?_, ?_⟩
  · obtain ⟨type, rfl⟩ := of_member_shape made
    exact field_name_not_final _ _
  · intro name depth sample c ran d walked options body reads method listed same
    have apart := every_walked (fun d => ∀ f ∈ d.fields, f.accessorName ≠ finalAccessor)
      (fun _ _ _ _ _ built => built_not_final built) ran d walked
    have legible := (Legibility.inferred_legible_inside ran d walked).fields
    rw [read_unique reads (inferred_reads options ran d walked)] at listed
    have named : finalMethod ∈ d.fields.flatMap (accessorNames options) := by
      rw [← accessor_names options legible]
      exact List.mem_map.mpr ⟨method, listed, same⟩
    obtain ⟨f, member, own⟩ := List.mem_flatMap.mp named
    exact accessor_not_final options (apart f member) own

/-- Keys that come to the word as it is, with a capital and behind what is not read, and two
that come near it. -/
def wardrobe : Sample := .object [("class", .int 1), ("Class", .object []), ("- Class", .list []),
  ("Clas", .list [.bool true]), ("c_lass", .int 2)]

theorem wardrobe_gets_no_class :
    (∃ f, Field.ofMember "Class" (.list []) = .ok f ∧ f.accessorName = "Class_" ∧ f.accessorName ≠ "Class") ∧
      ∃ c, (inferClass "Root" 0 wardrobe).outcome = .ok c ∧
        c.fields.map Field.accessorName = ["Class_", "Class_", "Class_", "Clas", "CLass"] ∧
        ∀ d ∈ c.walk, ∃ body, ReadAs { getters := true } d body ∧
          ∀ method ∈ body.accessors, methodName method.1 ≠ "getClass" := by
  obtain ⟨-, byMember, byTree⟩ := no_accessor_is_final
  obtain ⟨f, made, named⟩ : ∃ f, Field.ofMember "Class" (.list []) = .ok f ∧ f.accessorName = "Class_" :=
    ⟨_, rfl, by decide +kernel⟩
  obtain ⟨c, ran, names⟩ : ∃ c, (inferClass "Root" 0 wardrobe).outcome = .ok c ∧
      c.fields.map Field.accessorName = ["Class_", "Class_", "Class_", "Clas", "CLass"] :=
    ⟨_, rfl, by decide +kernel⟩
  refine ⟨⟨f, made, named, byMember _ _ f made⟩, c, ran, names, fun d walked => ?_⟩
  have reads := inferred_reads { getters := true } ran d walked
  exact ⟨_, reads, byTree _ _ _ c ran d walked _ _ reads⟩

end ClassMold.FinalMethods
