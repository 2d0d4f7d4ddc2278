import ClassMold.Proofs.Inference.Refusals
import ClassMold.Proofs.Sample.Values

/-! The kinds of values in a sample that comes from a text. The reader knows no other kinds
than those of JSON, so every value in what it reads has a type, and what messages call its
kind is one of a few fixed words. -/
namespace ClassMold.JsonKinds
open Sample Reach Refusals Values

/-- A sample all of whose values are of kinds that JSON can write. -/
inductive IsJson : Sample → Prop where
  | null : IsJson .null
  | bool (value : Bool) : IsJson (.bool value)
  | int (value : Int) : IsJson (.int value)
  | float (value : Binary64) : IsJson (.float value)
  | str (value : Text) : IsJson (.str value)
  | list {items : List Sample} (each : ∀ item ∈ items, IsJson item) : IsJson (.list items)
  | object {members : List (Text × Sample)} (each : ∀ member ∈ members, IsJson member.2) :
      IsJson (.object members)

variable {t : Text} {value : Sample} {members : List (Text × Sample)}

/-! ### Reading -/

theorem value_json {P : Text → Prop} (holds : IsValue P value) : IsJson value := by
  induction holds with
  | null => exact .null
  | bool value => exact .bool value
  | int value => exact .int value
  | float value => exact .float value
  | str kind => exact .str _
  | list each ih => exact .list ih
  | object keys distinct each ih => exact .object ih

/-- What is read from a text holds values of JSON only. -/
theorem sample_json (ran : Sample.read t = .ok value) : IsJson value :=
  value_json (read_value (P := fun _ => True) ran fun _ _ _ _ _ => trivial)

/-! ### What is visited -/

theorem tip_json (json : IsJson value) : IsJson value.tip := by
  induction value using Sample.tip.induct with
  | case1 first later ih =>
    cases json with
    | list each => exact ih (each first List.mem_cons_self)
  | case2 value notCons => rwa [tip.eq_2 value notCons]

theorem json_has_type (json : IsJson value) : value.isTypeless = false := by
  cases json <;> rfl

theorem visited_json (each : ∀ member ∈ members, IsJson member.2) :
    ∀ member ∈ visitedMembers members, IsJson member.2 := by
  -- Values and members visit each other, so both are told of at once.
  refine Sample.visitedMembers.induct
    (fun value => IsJson value → ∀ member ∈ value.visited, IsJson member.2)
    (fun members => (∀ member ∈ members, IsJson member.2) →
      ∀ member ∈ visitedMembers members, IsJson member.2) ?_ ?_ ?_ ?_ ?_ members each
  · intro first later ih json
    cases json with
    | list each => simpa only [visited] using ih (each first List.mem_cons_self)
  · intro members ih json
    cases json with
    | object each => simpa only [visited] using ih each
  · intro value notCons notObject json
    rw [visited.eq_3 value notCons notObject]
    exact List.forall_mem_nil _
  · exact fun _ => List.forall_mem_nil _
  · intro key value rest ih ihRest each
    obtain ⟨head, others⟩ := List.forall_mem_cons.mp each
    rw [visitedMembers]
    refine List.forall_mem_cons.mpr ⟨head, List.forall_mem_append.mpr ⟨?_, ihRest others⟩⟩
    split
    · exact List.forall_mem_nil _
    · exact ih head

/-! ### Errors -/

/-- What messages call the kinds of JSON values without parts. -/
def plainKinds : List Text := ["NoneType", "bool", "int", "float", "str"]

/-- A sample that was read is refused for its root alone, by a fixed word. -/
theorem json_refusal {name : Text} {error : InferenceError} (json : IsJson value)
    (stops : (inferClass name 0 value).outcome = .error error) :
    error = .emptyArray name ∨ ∃ kind ∈ plainKinds, error = .shapeless name kind := by
  have root := tip_json json
  rcases (class_failure_iff name 0 value error).mp (failure_eq_some_iff.mpr stops) with
    ends | ⟨notList, notObject⟩ | ⟨object, order, typed, lacks⟩
  · exact .inl rfl
  · refine .inr ⟨value.tip.kindName, ?_, rfl⟩
    generalize value.tip = tip at *
    cases root with
    | list => exact absurd rfl (notList _)
    | object => exact absurd rfl (notObject _)
    | _ => simp [kindName, plainKinds]
  · rw [object] at root
    cases root with
    | object each =>
      have held := visited_json each _ (order ▸ List.mem_append_right _ List.mem_cons_self)
      rw [json_has_type (tip_json held)] at lacks
      cases lacks

/-- A sample that was read has a class tree exactly if it leads to an object. -/
theorem json_inferred_iff (json : IsJson value) (name : Text) (depth : Int) :
    (∃ c, (inferClass name depth value).outcome = .ok c) ↔ ∃ members, value.tip = .object members := by
  constructor
  · rintro ⟨c, ran⟩
    obtain ⟨members, _, _, object, -, -⟩ := Steps.infer_class_ok_iff.mp ran
    exact ⟨members, object⟩
  · rintro ⟨members, object⟩
    have root := tip_json json
    rw [object] at root
    cases root with
    | object each =>
      rw [Steps.infer_class_tip, object, ← failure_eq_none_iff, infer_object_failure, members_failure,
        List.findSome?_eq_none_iff]
      exact fun member listed =>
        flaw_eq_none_iff.mpr (json_has_type (tip_json (visited_json each member listed)))

end ClassMold.JsonKinds
