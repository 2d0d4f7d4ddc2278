import Mathlib.Data.List.Forall2
import ClassMold.Proofs.Inference.Reach

/-! What each step of an inference does. A member has one of three fates: it
stops the inference, it becomes a field of a fixed type, or it becomes a field
together with the class of the object that it leads to. A successful run over
the members of an object is a chain of the latter two, so whatever holds of
all classes is proved once, from the chain of one object. -/
namespace ClassMold

namespace Reported

variable {ε α β : Type} {step : Reported ε α} {next : α → Reported ε β}

@[simp] theorem pure_outcome (value : α) : (pure value : Reported ε α).outcome = .ok value := rfl

@[simp] theorem quietly_outcome (outcome : Except ε α) : (quietly outcome).outcome = outcome := rfl

@[simp] theorem report_outcome (notice : Notice) :
    (report notice : Reported ε Unit).outcome = .ok () := rfl

theorem bind_outcome : (step >>= next).outcome = step.outcome.bind fun value => (next value).outcome := by
  cases first : step.outcome <;> simp [bind, Except.bind, first]

@[simp] theorem bind_ok_iff {result : β} :
    (step >>= next).outcome = .ok result ↔
      ∃ value, step.outcome = .ok value ∧ (next value).outcome = .ok result := by
  cases first : step.outcome <;> simp [bind, first]

theorem bind_quietly_ok (value : α) : (quietly (.ok value) >>= next) = next value := rfl

theorem bind_quietly_error (error : ε) :
    ((quietly (.error error) : Reported ε α) >>= next) = quietly (.error error) := rfl

end Reported

namespace Steps
open Sample TypeNames Reach

/-! ### One member -/

/-- The field for a member whose value has this type. -/
def memberField (key : Text) (value : Sample) (type : Text) : Field where
  key
  name := fieldName key (value.arrayDepth > 0)
  typeName := type
  arrayDepth := value.arrayDepth
  isCustom := isCustomType type

/-- The name of the class for the object that a member leads to. -/
def elementName (key : Text) (value : Sample) : Text :=
  (memberField key value (typeName key)).className

/-- The field for a member that leads to an object with a class. -/
def classField (key : Text) (value : Sample) : Field :=
  { memberField key value (typeName key) with typeName := elementName key value }

/-- A member becomes a field of a fixed type without a class. -/
def IsPlain (key : Text) (value : Sample) : Prop :=
  value.tip.isTypeless = false ∧ ∀ inner, value.tip = .object inner → SpellsLibraryType key

/-- A member leads to an object that gets a class. -/
def IsClassed (key : Text) (value : Sample) (inner : List (Text × Sample)) : Prop :=
  value.tip = .object inner ∧ ¬ SpellsLibraryType key

/-- The fields and classes that come of the members of an object, one member
after another. -/
inductive Built (depth : Int) : List (Text × Sample) → List Field → List ClassTree → Prop where
  | nil : Built depth [] [] []
  | plain {key type : Text} {value : Sample} {members : List (Text × Sample)}
      {fields : List Field} {nested : List ClassTree}
      (plain : IsPlain key value) (fixed : type ∈ fixedTypes)
      (rest : Built depth members fields nested) :
      Built depth ((key, value) :: members) (memberField key value type :: fields) nested
  | classed {key : Text} {value : Sample} {inner members : List (Text × Sample)}
      {fields : List Field} {c : ClassTree} {nested : List ClassTree}
      (classed : IsClassed key value inner)
      (ran : (inferClass (elementName key value) (depth + 1) value).outcome = .ok c)
      (rest : Built depth members fields nested) :
      Built depth ((key, value) :: members) (classField key value :: fields) (c :: nested)

variable {key name : Text} {depth : Int} {value : Sample}

/-- The field of a member is typed by what its value holds behind all lists. -/
theorem of_member_eq (key : Text) (value : Sample) :
    Field.ofMember key value = (resolveElement key value.core).map (memberField key value) := by
  unfold Field.ofMember resolveType
  cases resolveElement key value.core <;> rfl

/-- Only the type of a field can be missing. -/
theorem of_member_shape {f : Field} (made : Field.ofMember key value = .ok f) :
    ∃ type, f = memberField key value type := by
  rw [of_member_eq] at made
  cases resolved : resolveElement key value.core with
  | error error =>
    rw [resolved] at made
    cases made
  | ok type =>
    rw [resolved] at made
    cases made
    exact ⟨type, rfl⟩

theorem of_member_typeless (lacks : value.tip.isTypeless = true) :
    Field.ofMember key value = .error (.unresolvable key value.tip.kindName) := by
  rcases core_eq_tip value with same | ⟨-, last⟩
  · rw [of_member_eq, same]
    cases shape : value.tip with
    | foreign kind =>
      obtain ⟨kindName, fieldType⟩ := kind
      cases fieldType with
      | none => rfl
      | some type => simp [shape, isTypeless] at lacks
    | _ => simp [shape, isTypeless] at lacks
  · simp [last, isTypeless] at lacks

theorem of_member_object {inner : List (Text × Sample)} (shape : value.tip = .object inner) :
    Field.ofMember key value = .ok (memberField key value (typeName key)) := by
  rw [of_member_eq, (tip_object_iff value inner).mp shape]
  rfl

theorem of_member_scalar (typed : value.tip.isTypeless = false)
    (other : ∀ inner, value.tip ≠ .object inner) :
    ∃ type ∈ fixedTypes, Field.ofMember key value = .ok (memberField key value type) := by
  rw [of_member_eq]
  cases shape : value.core with
  | list items => exact absurd shape (core_ne_list value items)
  | object inner => exact absurd ((tip_object_iff value inner).mpr shape) (other inner)
  | null => exact ⟨_, scalar_is_fixed .object, rfl⟩
  | bool _ => exact ⟨_, scalar_is_fixed .boolean, rfl⟩
  | int _ => exact ⟨_, scalar_is_fixed .int, rfl⟩
  | float _ => exact ⟨_, scalar_is_fixed .float, rfl⟩
  | str _ => exact ⟨_, scalar_is_fixed .string, rfl⟩
  | foreign kind =>
    obtain ⟨kindName, fieldType⟩ := kind
    cases fieldType with
    | none =>
      rcases core_eq_tip value with same | ⟨empty, -⟩
      · simp [← same, shape, isTypeless] at typed
      · cases empty.symm.trans shape
    | some type => exact ⟨_, scalar_is_fixed type, rfl⟩

/-! ### The members of an object -/

variable {rest members : List (Text × Sample)} {fields : List Field} {nested : List ClassTree}

/-- A plain member leads nowhere. -/
theorem plain_leads_nowhere (plain : IsPlain key value) :
    (if SpellsLibraryType key then [] else value.objects) = [] ∧
      (if SpellsLibraryType key then [] else value.visited) = [] := by
  by_cases spelled : SpellsLibraryType key
  · simp [spelled]
  · obtain ⟨unvisited, none⟩ := nothing_reached fun inner shape => spelled (plain.2 inner shape)
    simp [spelled, unvisited, none]

/-- The three fates of a member. -/
theorem member_fate (key : Text) (value : Sample) :
    value.tip.isTypeless = true ∨ IsPlain key value ∨ ∃ inner, IsClassed key value inner := by
  cases lacks : value.tip.isTypeless with
  | true => exact .inl rfl
  | false =>
    by_cases classed : ∃ inner, IsClassed key value inner
    · exact .inr (.inr classed)
    · refine .inr (.inl ⟨lacks, fun inner shape => Decidable.byContradiction fun named => ?_⟩)
      exact classed ⟨inner, shape, named⟩

theorem plain_not_custom (key : Text) (value : Sample) {type : Text} (fixed : type ∈ fixedTypes) :
    (memberField key value type).isCustom = false := by
  simpa [memberField] using mt (custom_iff_not_fixed type).mp (not_not_intro fixed)

theorem class_custom (value : Sample) (named : ¬ SpellsLibraryType key) :
    (classField key value).isCustom = true :=
  (custom_type_name_iff key).mpr named

theorem infer_members_typeless (lacks : value.tip.isTypeless = true) :
    inferMembers depth ((key, value) :: rest) =
      .quietly (.error (.unresolvable key value.tip.kindName)) := by
  rw [inferMembers, of_member_typeless lacks, Reported.bind_quietly_error]

theorem infer_members_plain (depth : Int) (rest : List (Text × Sample)) (plain : IsPlain key value) :
    ∃ type ∈ fixedTypes, inferMembers depth ((key, value) :: rest) = do
      let (fields, nested) ← inferMembers depth rest
      return (memberField key value type :: fields, nested) := by
  obtain ⟨typed, spelled⟩ := plain
  have resolved : ∃ type ∈ fixedTypes,
      Field.ofMember key value = .ok (memberField key value type) := by
    cases shape : value.tip with
    | object inner =>
      exact ⟨_, (fixed_type_name_iff key).mpr (spelled inner shape), of_member_object shape⟩
    | _ => exact of_member_scalar typed (by simp [shape])
  obtain ⟨type, fixed, made⟩ := resolved
  refine ⟨type, fixed, ?_⟩
  rw [inferMembers, made, Reported.bind_quietly_ok, if_neg (by simp [plain_not_custom key value fixed])]

theorem infer_members_classed {inner : List (Text × Sample)} (classed : IsClassed key value inner) :
    inferMembers depth ((key, value) :: rest) = do
      let c ← inferClass (elementName key value) (depth + 1) value
      let (fields, nested) ← inferMembers depth rest
      return (classField key value :: fields, c :: nested) := by
  obtain ⟨shape, named⟩ := classed
  have custom : (memberField key value (typeName key)).isCustom = true := class_custom value named
  rw [inferMembers, of_member_object shape, Reported.bind_quietly_ok, if_pos custom]
  rfl

/-- A successful run over a member and the rest is one over the rest, to which the member adds a
field, and its class if it has one. -/
theorem infer_members_cons_ok
    (ran : (inferMembers depth ((key, value) :: rest)).outcome = .ok (fields, nested)) :
    (IsPlain key value ∧ ∃ type ∈ fixedTypes, ∃ others, fields = memberField key value type :: others ∧
      (inferMembers depth rest).outcome = .ok (others, nested)) ∨
    ∃ inner c others more, IsClassed key value inner ∧ fields = classField key value :: others ∧
      nested = c :: more ∧ (inferClass (elementName key value) (depth + 1) value).outcome = .ok c ∧
      (inferMembers depth rest).outcome = .ok (others, more) := by
  rcases member_fate key value with lacks | plain | ⟨inner, classed⟩
  · rw [infer_members_typeless lacks] at ran
    cases ran
  · obtain ⟨type, fixed, run⟩ := infer_members_plain depth rest plain
    rw [run] at ran
    simp only [Reported.bind_ok_iff, Prod.exists, Reported.pure_outcome, Except.ok.injEq,
      Prod.mk.injEq] at ran
    obtain ⟨tailFields, tailNested, tailRan, rfl, rfl⟩ := ran
    exact .inl ⟨plain, type, fixed, tailFields, rfl, tailRan⟩
  · rw [infer_members_classed classed] at ran
    simp only [Reported.bind_ok_iff, Prod.exists, Reported.pure_outcome, Except.ok.injEq,
      Prod.mk.injEq] at ran
    obtain ⟨c, innerRan, tailFields, tailNested, tailRan, rfl, rfl⟩ := ran
    exact .inr ⟨inner, c, tailFields, tailNested, classed, rfl, rfl, innerRan, tailRan⟩

/-- A successful run over members is such a chain. -/
theorem infer_members_built (ran : (inferMembers depth members).outcome = .ok (fields, nested)) :
    Built depth members fields nested := by
  induction members generalizing fields nested with
  | nil =>
    cases ran
    exact .nil
  | cons member rest ih =>
    rcases infer_members_cons_ok ran with
      ⟨plain, type, fixed, others, rfl, tailRan⟩ | ⟨inner, c, others, more, classed, rfl, rfl, innerRan, tailRan⟩
    · exact .plain plain fixed (ih tailRan)
    · exact .classed classed innerRan (ih tailRan)

/-! ### A class -/

/-- Only the tip of a sample counts. -/
theorem infer_class_tip (name : Text) (depth : Int) (value : Sample) :
    inferClass name depth value = inferClass name depth value.tip := by
  induction value using Sample.tip.induct with
  | case1 first later ih => simpa only [inferClass, tip] using ih
  | case2 value notCons => rw [tip.eq_2 value notCons]

theorem infer_class_shapeless (notList : ∀ items, value ≠ .list items)
    (notObject : ∀ members, value ≠ .object members) :
    inferClass name depth value = .quietly (.error (.shapeless name value.kindName)) :=
  inferClass.eq_4 name depth value (notList []) (fun first later => notList (first :: later)) notObject

/-- A class comes of an object only, and is made of what its members give. -/
theorem infer_class_ok_iff {c : ClassTree} :
    (inferClass name depth value).outcome = .ok c ↔
      ∃ members fields nested, value.tip = .object members ∧
        (inferMembers depth members).outcome = .ok (fields, nested) ∧
        c = .node name depth fields nested := by
  rw [infer_class_tip]
  constructor
  · intro ran
    rcases tip_kinds value with ends | ⟨members, object⟩ | ⟨notList, notObject⟩
    · rw [ends] at ran
      cases ran
    · rw [object, inferClass] at ran
      simp only [Reported.bind_ok_iff, Prod.exists, Reported.report_outcome, Reported.pure_outcome,
        Except.ok.injEq] at ran
      obtain ⟨fields, nested, membersRan, -, -, rfl⟩ := ran
      exact ⟨members, fields, nested, object, membersRan, rfl⟩
    · rw [infer_class_shapeless notList notObject] at ran
      cases ran
  · rintro ⟨members, fields, nested, shape, ran, rfl⟩
    rw [shape, inferClass]
    simp [ran]

/-- The classes of a tree, in the order of the walk, stand for the objects of
the sample, in the order in which these are reached. What holds of each class
and the object that it was inferred from holds along the whole tree. -/
theorem every_run (P : ClassTree → List (Text × Sample) → Prop)
    (each : ∀ name depth members c, (inferClass name depth (.object members)).outcome = .ok c →
      P c members) :
    ∀ {name depth c}, (inferClass name depth value).outcome = .ok c →
      List.Forall₂ P c.walk value.objects := by
  refine (objects.mutual_induct
    (fun value => ∀ {name depth c}, (inferClass name depth value).outcome = .ok c →
      List.Forall₂ P c.walk value.objects)
    (fun members => ∀ {depth fields nested}, Built depth members fields nested →
      List.Forall₂ P (ClassTree.walkAll nested) (objectsBelow members)) ?_ ?_ ?_ ?_ ?_).1 value
  · intro first later ih name depth c ran
    rw [inferClass] at ran
    simpa only [objects] using ih ran
  · intro members ih name depth c ran
    have own := each name depth members c ran
    obtain ⟨_, fields, nested, shape, membersRan, rfl⟩ := infer_class_ok_iff.mp ran
    cases shape
    exact .cons own (ih (infer_members_built membersRan))
  · intro value notCons notObject name depth c ran
    obtain ⟨members, _, _, shape, -, -⟩ := infer_class_ok_iff.mp ran
    rw [tip.eq_2 value notCons] at shape
    exact absurd shape (notObject members)
  · intro depth fields nested built
    cases built
    exact .nil
  · intro key value rest ih ihRest depth fields nested built
    cases built with
    | plain plain fixed tail =>
      rw [objectsBelow, (plain_leads_nowhere plain).1]
      exact ihRest tail
    | classed classed ran tail =>
      simp only [objectsBelow, classed.2, ↓reduceIte, ClassTree.walkAll]
      exact List.rel_append (ih ran) (ihRest tail)

/-- What holds of a class because its members are built like this holds along the
whole tree. -/
theorem every_class (P : ClassTree → List (Text × Sample) → Prop)
    (each : ∀ name depth members fields nested, Built depth members fields nested →
      P (.node name depth fields nested) members) {c : ClassTree}
    (ran : (inferClass name depth value).outcome = .ok c) : List.Forall₂ P c.walk value.objects := by
  refine every_run P (fun name depth members c ran => ?_) ran
  obtain ⟨_, fields, nested, shape, membersRan, rfl⟩ := infer_class_ok_iff.mp ran
  cases shape
  exact each name depth members fields nested (infer_members_built membersRan)

end Steps
end ClassMold
