import ClassMold.Inference
import ClassMold.Proofs.Naming.TypeNames

/-! The part of a sample that an inference can see, defined by the sample alone:
the value that first elements lead to, the objects that classes stand for, and
the members that are visited, in the order of the visits. Everything behind a
later element is out of sight, and so is an object under a key that spells a
library type. -/
namespace ClassMold

/-- The key's type name is that of a library type, so an object under it is
given no class. -/
def SpellsLibraryType (key : Text) : Prop := typeName key = "String" ∨ typeName key = "Object"

instance : DecidablePred SpellsLibraryType := fun key =>
  inferInstanceAs (Decidable (_ ∨ typeName key = "Object"))

namespace Sample

/-- What is reached by taking first elements as long as there is one. -/
def tip : Sample → Sample
  | list (first :: _) => first.tip
  | other => other

/-- A value of a kind that no type stands for. -/
def isTypeless : Sample → Bool
  | foreign kind => kind.fieldType.isNone
  | _ => false

mutual

/-- The members that an inference visits, each before those it leads to. -/
def visited : Sample → List (Text × Sample)
  | list (first :: _) => first.visited
  | object members => visitedMembers members
  | _ => []

/-- The members visited from those of one object, which are all visited themselves. -/
def visitedMembers : List (Text × Sample) → List (Text × Sample)
  | [] => []
  | (key, value) :: rest =>
    (key, value) :: (if SpellsLibraryType key then [] else value.visited) ++ visitedMembers rest

end

mutual

/-- The objects that classes stand for, each before those below it. -/
def objects : Sample → List (List (Text × Sample))
  | list (first :: _) => first.objects
  | object members => members :: objectsBelow members
  | _ => []

/-- The objects that the members of one object lead to. -/
def objectsBelow : List (Text × Sample) → List (List (Text × Sample))
  | [] => []
  | (key, value) :: rest =>
    (if SpellsLibraryType key then [] else value.objects) ++ objectsBelow rest

end

end Sample

namespace Reach
open Sample TypeNames

theorem custom_type_name_iff (key : Text) :
    isCustomType (typeName key) = true ↔ ¬ SpellsLibraryType key := by
  rw [custom_iff_not_fixed, fixed_type_name_iff]
  rfl

/-! ### First elements -/

theorem core_ne_list (value : Sample) (items : List Sample) : value.core ≠ .list items := by
  induction value using Sample.core.induct with
  | case1 => simp [core]
  | case2 first later ih => simpa only [core] using ih
  | case3 value notEmpty notCons =>
    cases value with
    | list items =>
      cases items with
      | nil => exact absurd rfl notEmpty
      | cons first later => exact absurd rfl (notCons first later)
    | _ => simp [core]

theorem tip_ne_cons (value first : Sample) (later : List Sample) :
    value.tip ≠ .list (first :: later) := by
  induction value using Sample.tip.induct with
  | case1 head tail ih => simpa only [tip] using ih
  | case2 value notCons =>
    rw [tip.eq_2 value notCons]
    exact notCons first later

/-- The three kinds of tips. -/
theorem tip_kinds (value : Sample) :
    value.tip = .list [] ∨ (∃ members, value.tip = .object members) ∨
      ((∀ items, value.tip ≠ .list items) ∧ ∀ members, value.tip ≠ .object members) := by
  cases shape : value.tip with
  | list items =>
    cases items with
    | nil => exact .inl rfl
    | cons first later => exact absurd shape (tip_ne_cons value first later)
  | object members => exact .inr (.inl ⟨members, rfl⟩)
  | _ => exact .inr (.inr ⟨nofun, nofun⟩)

/-- Up to the empty list, which holds null as it were, the tip is the core. -/
theorem core_eq_tip (value : Sample) :
    value.core = value.tip ∨ (value.core = .null ∧ value.tip = .list []) := by
  induction value using Sample.core.induct with
  | case1 => exact .inr ⟨rfl, rfl⟩
  | case2 first later ih => simpa only [core, tip] using ih
  | case3 value notEmpty notCons =>
    left
    rw [core.eq_3 value notEmpty notCons, tip.eq_2 value notCons]

theorem tip_object_iff (value : Sample) (members : List (Text × Sample)) :
    value.tip = .object members ↔ value.core = .object members := by
  rcases core_eq_tip value with same | ⟨empty, last⟩
  · rw [same]
  · simp [empty, last]

theorem visited_of_tip (value : Sample) : value.visited = value.tip.visited := by
  induction value using Sample.tip.induct with
  | case1 first later ih => simpa only [visited, tip] using ih
  | case2 value notCons => rw [tip.eq_2 value notCons]

theorem objects_of_tip (value : Sample) : value.objects = value.tip.objects := by
  induction value using Sample.tip.induct with
  | case1 first later ih => simpa only [objects, tip] using ih
  | case2 value notCons => rw [tip.eq_2 value notCons]

/-- Nothing is reached from a sample that does not lead to an object. -/
theorem nothing_reached {value : Sample} (other : ∀ members, value.tip ≠ .object members) :
    value.visited = [] ∧ value.objects = [] := by
  rw [visited_of_tip, objects_of_tip]
  rcases tip_kinds value with ends | ⟨members, object⟩ | ⟨notList, notObject⟩
  · rw [ends]
    exact ⟨rfl, rfl⟩
  · exact absurd object (other members)
  · have notCons := fun first later => notList (first :: later)
    exact ⟨visited.eq_3 _ notCons notObject, objects.eq_3 _ notCons notObject⟩

/-- The visited members are those of the objects that classes stand for. -/
theorem mem_visited_iff (value : Sample) (member : Text × Sample) :
    member ∈ value.visited ↔ ∃ members ∈ value.objects, member ∈ members := by
  refine (visited.mutual_induct
    (fun value => member ∈ value.visited ↔ ∃ members ∈ value.objects, member ∈ members)
    (fun list => member ∈ visitedMembers list ↔
      member ∈ list ∨ ∃ members ∈ objectsBelow list, member ∈ members) ?_ ?_ ?_ ?_ ?_).1 value
  · intro first later ih
    simpa only [visited, objects] using ih
  · intro members ih
    simp only [visited, objects, ih, List.mem_cons, exists_eq_or_imp]
  · intro value notCons notObject
    rw [visited.eq_3 value notCons notObject, objects.eq_3 value notCons notObject]
    simp
  · simp [visitedMembers, objectsBelow]
  · intro key inner rest ih ihRest
    by_cases hidden : SpellsLibraryType key
    · simp [visitedMembers, objectsBelow, hidden, ihRest, or_assoc]
    · simp only [visitedMembers, objectsBelow, hidden, ↓reduceIte, List.cons_append, List.mem_cons,
        List.mem_append, ih, ihRest, or_and_right, exists_or, or_assoc]
      exact or_congr_right or_left_comm

end Reach
end ClassMold
