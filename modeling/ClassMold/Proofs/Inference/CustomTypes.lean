import ClassMold.Proofs.Inference.Mirroring

/-! When a field's flag and its type tell the same. The flag is set while the
type still has its plural ending, and an element class is named without it, so
a list of objects under the plural of a library type is flagged as custom and
yet named like that type. This is the only way in which the two can differ. -/
namespace ClassMold.CustomTypes
open Sample TypeNames Steps Mirroring

/-- A list of objects under a key whose type name is a library type's with a
plural ending. -/
def PluralOfLibraryType (member : Text × Sample) : Prop :=
  0 < member.2.arrayDepth ∧ (∃ inner, member.2.tip = .object inner) ∧
    (typeName member.1 = "Strings" ∨ typeName member.1 = "Objects")

/-- The flag of a field tells what its type does, but for such a member. -/
def FlagTells (f : Field) (member : Text × Sample) : Prop :=
  f.isCustom = isCustomType f.typeName ↔ ¬ PluralOfLibraryType member

variable {key : Text} {value : Sample} {inner members : List (Text × Sample)} {depth : Int}
  {fields : List Field} {nested : List ClassTree} {c : ClassTree}

theorem plural_not_spelled (plural : PluralOfLibraryType (key, value)) : ¬ SpellsLibraryType key := by
  obtain ⟨-, -, same | same⟩ := plural <;>
    · simp only at same
      rw [SpellsLibraryType, same]
      decide

theorem plain_not_plural (plain : IsPlain key value) : ¬ PluralOfLibraryType (key, value) := by
  intro plural
  obtain ⟨inner, shape⟩ := plural.2.1
  exact plural_not_spelled plural (plain.2 inner shape)

/-- The name of an element class is taken from the types of old only when an
ending was stripped off. -/
theorem element_name_fixed_iff (classed : IsClassed key value inner) :
    elementName key value ∈ fixedTypes ↔ PluralOfLibraryType (key, value) := by
  have custom : typeName key ∉ fixedTypes := mt (fixed_type_name_iff key).mp classed.2
  by_cases array : 0 < value.arrayDepth
  · have stripped : elementName key value = singular (typeName key) := by
      simp [elementName, Field.className, Field.isArray, memberField, array]
    rw [stripped, fixed_singular_iff key custom]
    exact ⟨fun same => ⟨array, ⟨inner, classed.1⟩, same⟩, fun plural => plural.2.2⟩
  · have same : elementName key value = typeName key := by
      simp [elementName, Field.className, Field.isArray, memberField, array]
    rw [same]
    exact ⟨fun taken => absurd taken custom, fun plural => absurd plural.1 array⟩

theorem plain_flag_tells {type : Text} (plain : IsPlain key value) :
    FlagTells (memberField key value type) (key, value) :=
  ⟨fun _ => plain_not_plural plain, fun _ => rfl⟩

theorem class_flag_tells (classed : IsClassed key value inner) :
    FlagTells (classField key value) (key, value) := by
  rw [FlagTells, class_custom value classed.2, ← element_name_fixed_iff classed, eq_comm,
    custom_iff_not_fixed]
  rfl

/-- What one class owes to the members of its object: its flags tell, and none of
its nested classes has a fixed type's name unless such a member is there. -/
def FlagsTell (c : ClassTree) (members : List (Text × Sample)) : Prop :=
  List.Forall₂ FlagTells c.fields members ∧
    ((∀ inner ∈ c.nested, inner.name ∉ fixedTypes) ↔
      ∀ member ∈ members, ¬ PluralOfLibraryType member)

theorem built_flags_tell (name : Text) (built : Built depth members fields nested) :
    FlagsTell (.node name depth fields nested) members := by
  unfold FlagsTell
  simp only [ClassTree.fields, ClassTree.nested]
  induction built with
  | nil => simp
  | plain plain fixed rest ih =>
    refine ⟨.cons (plain_flag_tells plain) ih.1, ?_⟩
    simp only [ih.2, List.forall_mem_cons, plain_not_plural plain, not_false_eq_true, true_and]
  | classed classed ran rest ih =>
    refine ⟨.cons (class_flag_tells classed) ih.1, ?_⟩
    simp only [ih.2, List.forall_mem_cons, (class_name_depth ran).1, element_name_fixed_iff classed]

theorem forall_mem_iff {α β : Type} {p : α → Prop} {q : β → Prop} {as : List α} {bs : List β}
    (tied : List.Forall₂ (fun a b => p a ↔ q b) as bs) : (∀ a ∈ as, p a) ↔ ∀ b ∈ bs, q b := by
  induction tied with
  | nil => simp
  | cons same rest ih => simp only [List.forall_mem_cons, same, ih]

theorem forall_visited_iff (sample : Sample) (p : Text × Sample → Prop) :
    (∀ members ∈ sample.objects, ∀ member ∈ members, p member) ↔
      ∀ member ∈ sample.visited, p member := by
  simp only [Reach.mem_visited_iff]
  constructor
  · rintro all member ⟨members, reached, listed⟩
    exact all members reached member listed
  · intro all members reached member listed
    exact all member ⟨members, reached, listed⟩

/-- In the tree of a sample every flag tells what the type does, and no class
below the root takes a fixed type's name, exactly when no visited member is a
list of objects under the plural of a library type. Field by field, the flag
differs from the type for such members and for no others. -/
theorem custom_flags_tell_types (name : Text) (depth : Int) (sample : Sample) (c : ClassTree)
    (ran : (inferClass name depth sample).outcome = .ok c) :
    ((∀ d ∈ c.walk, ∀ f ∈ d.fields, f.isCustom = isCustomType f.typeName) ↔
        ∀ member ∈ sample.visited, ¬ PluralOfLibraryType member) ∧
      ((∀ d ∈ ClassTree.walkAll c.nested, d.name ∉ fixedTypes) ↔
        ∀ member ∈ sample.visited, ¬ PluralOfLibraryType member) ∧
      List.Forall₂ (fun d members => List.Forall₂ FlagTells d.fields members)
        c.walk sample.objects := by
  have told := every_class FlagsTell (fun name _ _ _ _ built => built_flags_tell name built) ran
  simp only [← forall_visited_iff]
  refine ⟨?_, ?_, told.imp fun _ _ both => both.1⟩
  · exact forall_mem_iff (told.imp fun _ _ both => forall_mem_iff both.1)
  · have below : (∀ d ∈ ClassTree.walkAll c.nested, d.name ∉ fixedTypes) ↔
        ∀ outer ∈ c.walk, ∀ inner ∈ outer.nested, inner.name ∉ fixedTypes := by
      simp only [mem_below_iff]
      constructor
      · intro free outer walked inner own
        exact free inner ⟨outer, walked, own⟩
      · rintro free inner ⟨outer, walked, own⟩
        exact free outer walked inner own
    rw [below]
    exact forall_mem_iff (told.imp fun _ _ both => both.2)

/-- A list of objects under a key that reads as the plural of a library type. -/
def stringsSample : Sample := .object [("strings", .list [.object [("a", .int 1)]])]

theorem strings_flags_tell_types :
    ∃ c, (inferClass "Root" 0 stringsSample).outcome = .ok c ∧
      ¬ (∀ d ∈ c.walk, ∀ f ∈ d.fields, f.isCustom = isCustomType f.typeName) ∧
      ¬ ∀ d ∈ ClassTree.walkAll c.nested, d.name ∉ fixedTypes := by
  obtain ⟨c, ran⟩ : ∃ c, (inferClass "Root" 0 stringsSample).outcome = .ok c := ⟨_, rfl⟩
  have plural : PluralOfLibraryType ("strings", .list [.object [("a", .int 1)]]) :=
    ⟨by decide, ⟨_, rfl⟩, .inl rfl⟩
  have visited : ¬ ∀ member ∈ stringsSample.visited, ¬ PluralOfLibraryType member :=
    fun none => none _ List.mem_cons_self plural
  obtain ⟨flags, names, -⟩ := custom_flags_tell_types "Root" 0 stringsSample c ran
  exact ⟨c, ran, mt flags.mp visited, mt names.mp visited⟩

/-- The field is flagged as custom although its type is the library's, and its
class is named like the library's. -/
theorem strings_class_shadows_string :
    ∃ c, (inferClass "Root" 0 stringsSample).outcome = .ok c ∧
      (∃ f ∈ c.fields, f.typeName = "String" ∧ f.isCustom ≠ isCustomType f.typeName) ∧
      ∃ inner ∈ ClassTree.walkAll c.nested, inner.name = "String" :=
  ⟨_, rfl, ⟨_, List.mem_cons_self, rfl, by decide⟩, ⟨_, List.mem_cons_self, rfl⟩⟩

end ClassMold.CustomTypes
