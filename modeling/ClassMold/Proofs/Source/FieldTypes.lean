import Mathlib.Logic.Function.Iterate
import ClassMold.Proofs.Source.Legibility

/-! What a field is declared with. The depth of an array and the type of its elements are found
by two passes over the value, which have to stop at the same element; its kind then decides the
type, and a key counts only where the element is an object. No key spells a primitive type,
with its plural ending or without, so a field that leads to an object is a reference in any
case: boxing leaves its type alone, and it starts as null. -/
namespace ClassMold

/-- One step into a list. What an empty one would hold is taken to be null. -/
def Sample.firstElement : Sample → Sample
  | list [] => null
  | list (first :: _) => first
  | other => other

namespace FieldTypes
open Sample TypeNames Steps Reach Alphabet Legibility Casing

/-! ### Elements -/

/-- The passes for the depth and for the type stop at the same element. -/
theorem element_reached (value : Sample) : firstElement^[value.arrayDepth] value = value.core := by
  induction value using Sample.core.induct with
  | case1 => rfl
  | case2 first later ih =>
    rw [arrayDepth, Function.iterate_succ_apply]
    simpa only [firstElement, core] using ih
  | case3 value notEmpty notCons =>
    rw [arrayDepth.eq_3 value notEmpty notCons, core.eq_3 value notEmpty notCons]
    rfl

/-- Each step before is taken from a list. -/
theorem lists_before (value : Sample) {steps : Nat} (before : steps < value.arrayDepth) :
    ∃ items, firstElement^[steps] value = .list items := by
  induction value using Sample.core.induct generalizing steps with
  | case1 =>
    rw [arrayDepth] at before
    obtain rfl : steps = 0 := by omega
    exact ⟨[], rfl⟩
  | case2 first later ih =>
    rw [arrayDepth] at before
    cases steps with
    | zero => exact ⟨first :: later, rfl⟩
    | succ steps =>
      rw [Function.iterate_succ_apply]
      exact ih (by omega)
  | case3 value notEmpty notCons =>
    rw [arrayDepth.eq_3 value notEmpty notCons] at before
    omega

/-! ### Types -/

/-- The type that an element is declared with under a key, and whether a class is made for it. -/
inductive TypedAs (key : Text) : Sample → Text → Bool → Prop where
  /-- A name that the library has taken stands for the library's type. -/
  | object {members : List (Text × Sample)} {custom : Bool}
      (own : custom = true ↔ typeName key ≠ "String" ∧ typeName key ≠ "Object") :
      TypedAs key (.object members) (typeName key) custom
  | boolean (value : Bool) : TypedAs key (.bool value) "boolean" false
  | int (value : Int) : TypedAs key (.int value) "int" false
  | float (value : Binary64) : TypedAs key (.float value) "float" false
  | string (value : Text) : TypedAs key (.str value) "String" false
  | null : TypedAs key .null "Object" false
  /-- A kind that JSON cannot write may count as one of those that it can. -/
  | counted (kindName : Text) (type : ScalarType) :
      TypedAs key (.foreign ⟨kindName, some type⟩) type.name false

variable {key : Text} {value : Sample} {f : Field}

theorem scalar_not_custom (type : ScalarType) : isCustomType type.name = false := by
  cases type <;> decide

theorem resolved_typed (key : Text) {element : Sample} (single : ∀ items, element ≠ .list items) :
    (element.isTypeless = true ∧ resolveElement key element = .error (.unresolvable key element.kindName)) ∨
      ∃ type, resolveElement key element = .ok type ∧ TypedAs key element type (isCustomType type) := by
  cases element with
  | list items => exact absurd rfl (single items)
  | object members =>
    refine .inr ⟨typeName key, rfl, .object ?_⟩
    rw [custom_type_name_iff, SpellsLibraryType, not_or]
  | null => exact .inr ⟨_, rfl, scalar_not_custom .object ▸ .null⟩
  | bool value => exact .inr ⟨_, rfl, scalar_not_custom .boolean ▸ .boolean value⟩
  | int value => exact .inr ⟨_, rfl, scalar_not_custom .int ▸ .int value⟩
  | float value => exact .inr ⟨_, rfl, scalar_not_custom .float ▸ .float value⟩
  | str value => exact .inr ⟨_, rfl, scalar_not_custom .string ▸ .string value⟩
  | foreign kind =>
    obtain ⟨kindName, fieldType⟩ := kind
    cases fieldType with
    | none => exact .inl ⟨rfl, rfl⟩
    | some type => exact .inr ⟨_, rfl, scalar_not_custom type ▸ .counted kindName type⟩

/-- The type ends with so many pairs of brackets and has no bracket besides. -/
def Bracketed (type : Text) (pairs : Nat) : Prop :=
  ∃ element, .scalar '[' ∉ element ∧ .scalar ']' ∉ element ∧
    type = element ++ (List.replicate pairs (Text.ofString "[]")).flatten

theorem typed_word {element : Sample} {type : Text} {custom : Bool}
    (typed : TypedAs key element type custom) : IsWord type ∧ type ≠ "class" := by
  cases typed with
  | object => exact ⟨type_name_word key, type_name_ne_small key "class" (by decide)⟩
  | counted kindName type => exact fixed_type_legible (scalar_is_fixed type)
  | _ => exact fixed_type_legible (by decide)

theorem member_bracketed {type : Text} (word : IsWord type) (notClass : type ≠ "class") (boxed : Bool) :
    Bracketed ((memberField key value type).declaredType boxed) value.arrayDepth := by
  have legible : LegibleField (memberField key value type) := member_field_legible word notClass
  have element : IsWord ((memberField key value type).elementType boxed) := element_type_word legible
  refine ⟨_, fun listed => ?_, fun listed => ?_, rfl⟩
  · exact absurd (element _ listed) (by decide)
  · exact absurd (element _ listed) (by decide)

/-- Whatever the key is, truth values are not taken for numbers. -/
theorem boolean_typed {truth custom : Bool} {type : Text} (typed : TypedAs key (.bool truth) type custom) :
    type = "boolean" ∧ custom = false := by
  cases typed
  exact ⟨rfl, rfl⟩

/-- A field is declared with what its value holds behind all lists, at their number. -/
theorem value_types_field (key : Text) (value : Sample) :
    let depth := value.arrayDepth
    let element := firstElement^[depth] value
    (∀ items, element ≠ .list items) ∧
      (∀ steps < depth, ∃ items, firstElement^[steps] value = .list items) ∧
      ((element.isTypeless = true ∧
          Field.ofMember key value = .error (.unresolvable key element.kindName)) ∨
        ∃ f, Field.ofMember key value = .ok f ∧ TypedAs key element f.typeName f.isCustom ∧
          f.arrayDepth = depth ∧ ∀ boxed, Bracketed (f.declaredType boxed) depth) := by
  intro depth element
  have reached : element = value.core := element_reached value
  have single : ∀ items, element ≠ .list items := fun items => reached ▸ core_ne_list value items
  refine ⟨single, fun steps before => lists_before value before, ?_⟩
  rw [of_member_eq, ← reached]
  rcases resolved_typed key single with ⟨lacks, refused⟩ | ⟨type, resolved, typed⟩
  · rw [refused]
    exact .inl ⟨lacks, rfl⟩
  · obtain ⟨word, notClass⟩ := typed_word typed
    rw [resolved]
    exact .inr ⟨memberField key value type, rfl, typed, rfl, member_bracketed word notClass⟩

/-- A truth value two lists deep, under a key that spells a number's type. -/
def flags : Sample := .list [.list [.bool true, .int 0], .str "later"]

theorem flags_typed_boolean :
    firstElement^[2] flags = .bool true ∧ (∃ items, firstElement^[1] flags = .list items) ∧
      ∃ f, Field.ofMember "int" flags = .ok f ∧ f.typeName = "boolean" ∧ f.isCustom = false ∧
        Bracketed (f.declaredType true) 2 := by
  obtain ⟨-, lists, ⟨lacks, -⟩ | ⟨f, made, typed, -, declared⟩⟩ := value_types_field "int" flags
  · cases lacks
  · obtain ⟨type, fixed⟩ := boolean_typed typed
    exact ⟨rfl, lists 1 (by decide), f, made, type, fixed, declared true⟩

/-! ### References -/

/-- The primitive types among those of scalar values. -/
def scalarPrimitives : List Text := ["boolean", "int", "float"]

/-- The name of an object's type under a key, with so many lists around the object. -/
def objectTypeName (key : Text) (lists : Nat) : Text :=
  if 0 < lists then singular (typeName key) else typeName key

/-- A field whose type boxing leaves alone and that starts as null. -/
structure IsReference (f : Field) : Prop where
  type : f.elementType true = f.elementType false
  null : ∀ boxed, f.defaultLiteral boxed = "null"

/-- Neither a key nor its singular starts with a small letter. -/
theorem object_type_start {lists : Nat} {rest : Text} {first : CodePoint}
    (shape : objectTypeName key lists = first :: rest) : ¬ AsciiSmall first := by
  unfold objectTypeName at shape
  split at shape
  · exact singular_start shape
  · exact type_name_start shape

theorem object_type_not_primitive (key : Text) (lists : Nat) : objectTypeName key lists ∉ scalarPrimitives := by
  have small : ∀ name ∈ scalarPrimitives, ∃ first ∈ name.head?, AsciiSmall first := by decide
  intro listed
  obtain ⟨first, starts, low⟩ := small _ listed
  obtain ⟨rest, shape⟩ := List.head?_eq_some_iff.mp starts
  exact object_type_start shape low

/-- All reserved words but the underscore start with a small letter. -/
theorem object_type_reserved_iff (key : Text) (lists : Nat) :
    (objectTypeName key lists).isReserved = true ↔ objectTypeName key lists = [underscore] := by
  have table : ∀ word ∈ reservedWords, word = [underscore] ∨ ∃ first ∈ word.head?, AsciiSmall first := by
    decide
  constructor
  · intro reserved
    rcases table _ (List.contains_iff_mem.mp reserved) with lone | ⟨first, starts, low⟩
    · exact lone
    · obtain ⟨rest, shape⟩ := List.head?_eq_some_iff.mp starts
      exact absurd low (object_type_start shape)
  · intro lone
    rw [lone]
    decide

theorem reference_of_name (free : f.typeName ∉ scalarPrimitives) : IsReference f := by
  cases named : ScalarType.named? f.typeName with
  | none =>
    constructor
    · simp [Field.elementType, named]
    · simp [Field.defaultLiteral, named]
  | some type =>
    have own : type.name = f.typeName := named_type named
    have apart : type.name ∉ scalarPrimitives := own ▸ free
    have library : type.boxedName = type.name ∧ type.defaultLiteral = "null" := by
      cases type with
      | string => exact ⟨rfl, rfl⟩
      | object => exact ⟨rfl, rfl⟩
      | _ => exact absurd (by decide) apart
    constructor
    · simp [Field.elementType, named, library.1, own]
    · simp [Field.defaultLiteral, named, library.2]

/-! ### Fields of a tree -/

/-- The field of a member as its class declares it, typed with the class of its elements. -/
def placed (f : Field) : Field := if f.isCustom then { f with typeName := f.className } else f

variable {depth : Int} {members : List (Text × Sample)} {fields : List Field} {nested : List ClassTree}

/-- Each field of a class is the one of its member, placed. -/
theorem fields_of_members (ran : (inferMembers depth members).outcome = .ok (fields, nested)) :
    List.Forall₂ (fun f member => ∃ own, Field.ofMember member.1 member.2 = .ok own ∧ f = placed own)
      fields members := by
  induction members generalizing fields nested with
  | nil =>
    cases ran
    exact .nil
  | cons member rest ih =>
    rw [inferMembers] at ran
    obtain ⟨own, made, ran⟩ := Reported.bind_ok_iff.mp ran
    split at ran
    · rename_i custom
      simp only [Reported.bind_ok_iff, Prod.exists, Reported.pure_outcome, Except.ok.injEq,
        Prod.mk.injEq] at ran
      obtain ⟨c, -, others, more, tailRan, rfl, -⟩ := ran
      exact .cons ⟨own, made, by rw [placed, if_pos custom]⟩ (ih tailRan)
    · rename_i fixed
      simp only [Reported.bind_ok_iff, Prod.exists, Reported.pure_outcome, Except.ok.injEq,
        Prod.mk.injEq] at ran
      obtain ⟨others, more, tailRan, rfl, -⟩ := ran
      exact .cons ⟨own, made, by rw [placed, if_neg fixed]⟩ (ih tailRan)

/-- A member that leads to an object has a field with a name made for objects, and the field is
a reference. -/
def RefersToObject (f : Field) (member : Text × Sample) : Prop :=
  ∀ inner, member.2.tip = .object inner →
    f.typeName = objectTypeName member.1 member.2.arrayDepth ∧ IsReference f

/-- No library type ends like a plural. -/
theorem library_type_name (spelled : SpellsLibraryType key) (lists : Nat) :
    objectTypeName key lists = typeName key := by
  unfold objectTypeName
  split
  · rcases spelled with same | same <;> rw [same] <;> decide
  · rfl

theorem object_field_named {inner : List (Text × Sample)} (shape : value.tip = .object inner)
    (made : Field.ofMember key value = .ok f) :
    (placed f).typeName = objectTypeName key value.arrayDepth := by
  rw [of_member_object shape] at made
  obtain rfl : memberField key value (typeName key) = f := Except.ok.inj made
  by_cases spelled : SpellsLibraryType key
  · have plain := plain_not_custom key value ((fixed_type_name_iff key).mpr spelled)
    rw [placed, if_neg (by simp [plain]), library_type_name spelled]
    rfl
  · have custom : (memberField key value (typeName key)).isCustom = true := class_custom value spelled
    rw [placed, if_pos custom]
    simp [Field.className, Field.isArray, memberField, objectTypeName]

theorem object_field_refers {inner : List (Text × Sample)} (shape : value.tip = .object inner)
    (made : Field.ofMember key value = .ok f) : IsReference (placed f) := by
  apply reference_of_name
  rw [object_field_named shape made]
  exact object_type_not_primitive key _

/-- No name made for an object is that of a primitive type, and of the reserved words only the
underscore is one. So wherever a value leads to an object, the field that is built for it
and the one that its class declares are references. -/
theorem objects_are_references :
    (∀ key lists, objectTypeName key lists ∉ scalarPrimitives ∧
        ((objectTypeName key lists).isReserved = true ↔ objectTypeName key lists = [underscore])) ∧
      (∀ key value inner, value.tip = .object inner →
        ∃ f, Field.ofMember key value = .ok f ∧ f.typeName = typeName key ∧ IsReference f) ∧
      ∀ name depth sample c, (inferClass name depth sample).outcome = .ok c →
        List.Forall₂ (fun d members => List.Forall₂ RefersToObject d.fields members)
          c.walk sample.objects := by
  refine ⟨fun key lists => ?_, fun key value inner shape => ?_, fun name depth sample c ran => ?_⟩
  · exact ⟨object_type_not_primitive key lists, object_type_reserved_iff key lists⟩
  · refine ⟨_, of_member_object shape, rfl, reference_of_name ?_⟩
    exact object_type_not_primitive key 0
  · apply every_run _ _ ran
    intro name depth members c ran
    obtain ⟨_, fields, nested, same, membersRan, rfl⟩ := infer_class_ok_iff.mp ran
    cases same
    refine (fields_of_members membersRan).imp fun f member held inner shape => ?_
    obtain ⟨own, made, rfl⟩ := held
    exact ⟨object_field_named shape made, object_field_refers shape made⟩

/-- Objects under the names of a primitive and of a library type, and one behind two lists under
a name that is no longer a plural. -/
def catalogue : Sample := .object [
  ("int", .object [("x", .int 1)]),
  ("strings", .list [.object []]),
  ("_", .list [.list [.object [("String", .object [])]]])]

theorem catalogue_refers :
    ∃ c, (inferClass "Catalogue" 0 catalogue).outcome = .ok c ∧
      c.walk.flatMap (·.fields.map Field.typeName) = ["Int", "String", "_", "int", "String"] ∧
      List.Forall₂ (fun d members => List.Forall₂ RefersToObject d.fields members)
        c.walk catalogue.objects ∧
      ∃ f, Field.ofMember "ints" (.list [.object []]) = .ok f ∧ f.typeName = "Ints" ∧ IsReference f := by
  have plural : typeName "ints" = "Ints" := by decide
  have member := objects_are_references.2.1 "ints" (.list [.object []]) [] rfl
  rw [plural] at member
  have types : (inferClass "Catalogue" 0 catalogue).outcome.map
      (·.walk.flatMap (·.fields.map Field.typeName)) = .ok ["Int", "String", "_", "int", "String"] := by
    decide +kernel
  cases ran : (inferClass "Catalogue" 0 catalogue).outcome with
  | error error =>
    rw [ran] at types
    cases types
  | ok c =>
    rw [ran] at types
    exact ⟨c, rfl, Except.ok.inj types, objects_are_references.2.2 "Catalogue" 0 catalogue c ran, member⟩

end FieldTypes
end ClassMold
