import ClassMold.Proofs.Inference.Steps

/-! When an inference fails, and how. The refusals of a sample are listed by the
sample alone: what its tip is, and the first of the visited members whose value
leads to something without a type. A run fails with a refusal exactly when it
is listed, so in every other case there is a tree. -/
namespace ClassMold

/-- The error that a step stops with, if it stops. -/
def Reported.failure? {ε α : Type} (step : Reported ε α) : Option ε :=
  match step.outcome with
  | .error e => some e
  | .ok _ => none

namespace Refusals
open Sample Reach Steps

section Failures

variable {ε α β : Type} {step : Reported ε α} {next : α → Reported ε β}

theorem failure_eq_some_iff {error : ε} : step.failure? = some error ↔ step.outcome = .error error := by
  unfold Reported.failure?
  cases step.outcome <;> simp

theorem failure_eq_none_iff : step.failure? = none ↔ ∃ value, step.outcome = .ok value := by
  unfold Reported.failure?
  cases step.outcome <;> simp

/-- The first of two steps to stop decides. -/
theorem failure_bind {later : Option ε} (same : ∀ value, (next value).failure? = later) :
    (step >>= next).failure? = step.failure?.or later := by
  cases first : step.outcome with
  | error e => simp [Reported.failure?, bind, first]
  | ok value => simpa [Reported.failure?, bind, first] using same value

theorem failure_then (never : ∀ value, (next value).failure? = none) :
    (step >>= next).failure? = step.failure? :=
  (failure_bind never).trans Option.or_none

end Failures

/-- What is wrong with a visited member. -/
def flaw (member : Text × Sample) : Option InferenceError :=
  if member.2.tip.isTypeless then some (.unresolvable member.1 member.2.tip.kindName) else none

/-- Why no class tree comes of a sample. -/
inductive Refused (name : Text) (sample : Sample) : InferenceError → Prop where
  | emptyArray (ends : sample.tip = .list []) : Refused name sample (.emptyArray name)
  | shapeless (notList : ∀ items, sample.tip ≠ .list items)
      (notObject : ∀ members, sample.tip ≠ .object members) :
      Refused name sample (.shapeless name sample.tip.kindName)
  | unresolvable {members before after : List (Text × Sample)} {key : Text} {value : Sample}
      (object : sample.tip = .object members)
      (order : visitedMembers members = before ++ (key, value) :: after)
      (typed : ∀ member ∈ before, member.2.tip.isTypeless = false)
      (lacks : value.tip.isTypeless = true) :
      Refused name sample (.unresolvable key value.tip.kindName)

theorem infer_object_failure (name : Text) (depth : Int) (members : List (Text × Sample)) :
    (inferClass name depth (.object members)).failure? = (inferMembers depth members).failure? := by
  rw [inferClass]
  exact failure_then fun _ => rfl

/-- A run over the members of an object fails with the first flaw that is visited. -/
theorem members_failure (depth : Int) (members : List (Text × Sample)) :
    (inferMembers depth members).failure? = (visitedMembers members).findSome? flaw := by
  refine (visited.mutual_induct
    (fun value => ∀ inner, value.tip = .object inner → ∀ name depth,
      (inferClass name depth value).failure? = value.visited.findSome? flaw)
    (fun members => ∀ depth,
      (inferMembers depth members).failure? = (visitedMembers members).findSome? flaw)
    ?_ ?_ ?_ ?_ ?_).2 members depth
  · intro first later ih inner shape name depth
    rw [inferClass, visited]
    exact ih inner shape name depth
  · intro members ih inner shape name depth
    rw [infer_object_failure, visited]
    exact ih depth
  · intro value notCons notObject inner shape
    rw [tip.eq_2 value notCons] at shape
    exact absurd shape (notObject inner)
  · intro depth
    rfl
  · intro key value rest ih ihRest depth
    rcases member_fate key value with lacks | plain | ⟨inner, classed⟩
    · rw [infer_members_typeless lacks]
      simp [visitedMembers, flaw, lacks, Reported.failure?]
    · obtain ⟨type, -, run⟩ := infer_members_plain depth rest plain
      rw [run, failure_then fun _ => rfl, ihRest, visitedMembers, (plain_leads_nowhere plain).2]
      simp [flaw, plain.1]
    · have sound : flaw (key, value) = none := by simp [flaw, classed.1, isTypeless]
      rw [infer_members_classed classed, failure_bind fun c => failure_then fun _ => rfl,
        ih inner classed.1, ihRest, visitedMembers, if_neg classed.2]
      simp [sound, List.findSome?_append]

theorem flaw_eq_some_iff {member : Text × Sample} {error : InferenceError} :
    flaw member = some error ↔ member.2.tip.isTypeless = true ∧
      error = .unresolvable member.1 member.2.tip.kindName := by
  unfold flaw
  by_cases lacks : member.2.tip.isTypeless = true
  · simp only [lacks, ↓reduceIte, Option.some.injEq, true_and]
    exact eq_comm
  · simp [lacks]

theorem flaw_eq_none_iff {member : Text × Sample} :
    flaw member = none ↔ member.2.tip.isTypeless = false := by
  simp [flaw]

section Tips

variable {name : Text} {sample : Sample} {error : InferenceError}

theorem refused_empty_iff (ends : sample.tip = .list []) :
    Refused name sample error ↔ error = .emptyArray name := by
  constructor
  · intro refused
    cases refused with
    | emptyArray => rfl
    | shapeless notList notObject => exact absurd ends (notList [])
    | unresolvable object => cases ends.symm.trans object
  · rintro rfl
    exact .emptyArray ends

theorem refused_shapeless_iff (notList : ∀ items, sample.tip ≠ .list items)
    (notObject : ∀ members, sample.tip ≠ .object members) :
    Refused name sample error ↔ error = .shapeless name sample.tip.kindName := by
  constructor
  · intro refused
    cases refused with
    | emptyArray ends => exact absurd ends (notList [])
    | shapeless => rfl
    | unresolvable object => exact absurd object (notObject _)
  · rintro rfl
    exact .shapeless notList notObject

/-- An object is refused for the first flaw among the members visited from it. -/
theorem refused_object_iff {members : List (Text × Sample)} (object : sample.tip = .object members) :
    Refused name sample error ↔ (visitedMembers members).findSome? flaw = some error := by
  rw [List.findSome?_eq_some_iff]
  constructor
  · intro refused
    cases refused with
    | emptyArray ends => cases ends.symm.trans object
    | shapeless notList notObject => exact absurd object (notObject members)
    | @unresolvable _ before after key value same order typed lacks =>
      cases same.symm.trans object
      exact ⟨before, (key, value), after, order, flaw_eq_some_iff.mpr ⟨lacks, rfl⟩,
        fun member earlier => flaw_eq_none_iff.mpr (typed member earlier)⟩
  · rintro ⟨before, ⟨key, value⟩, after, order, hit, passed⟩
    obtain ⟨lacks, rfl⟩ := flaw_eq_some_iff.mp hit
    apply Refused.unresolvable object order _ lacks
    exact fun member earlier => flaw_eq_none_iff.mp (passed member earlier)

end Tips

theorem class_failure_iff (name : Text) (depth : Int) (sample : Sample) (error : InferenceError) :
    (inferClass name depth sample).failure? = some error ↔ Refused name sample error := by
  rw [infer_class_tip]
  rcases tip_kinds sample with ends | ⟨members, object⟩ | ⟨notList, notObject⟩
  · rw [refused_empty_iff ends, ends, failure_eq_some_iff]
    simp [inferClass, eq_comm]
  · rw [refused_object_iff object, object, infer_object_failure, members_failure]
  · rw [refused_shapeless_iff notList notObject, infer_class_shapeless notList notObject,
      failure_eq_some_iff]
    simp [eq_comm]

/-- An inference stops with an error exactly when its sample is refused with it,
and yields a tree exactly when the tip is an object and every visited member
leads to something that has a type. -/
theorem inference_stops_iff_refused (name : Text) (depth : Int) (sample : Sample) :
    (∀ error, (inferClass name depth sample).outcome = .error error ↔ Refused name sample error) ∧
      ((∃ c, (inferClass name depth sample).outcome = .ok c) ↔
        ∃ members, sample.tip = .object members ∧
          ∀ member ∈ visitedMembers members, member.2.tip.isTypeless = false) := by
  have stops := class_failure_iff name depth sample
  refine ⟨fun error => failure_eq_some_iff.symm.trans (stops error), ?_⟩
  rw [← failure_eq_none_iff, infer_class_tip]
  rcases tip_kinds sample with ends | ⟨members, object⟩ | ⟨notList, notObject⟩
  · simp [ends, inferClass, Reported.failure?]
  · simp [object, infer_object_failure, members_failure, flaw_eq_none_iff]
  · simp [infer_class_shapeless notList notObject, notObject, Reported.failure?]

end Refusals
end ClassMold
