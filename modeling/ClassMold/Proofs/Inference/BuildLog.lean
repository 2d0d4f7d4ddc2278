import ClassMold.Proofs.Inference.Mirroring

/-! What an inference reports. A class is reported when it is finished, that is with all of its
fields and behind the classes nested in it; so the reports of a run tell the classes of
its tree from the inside out, each once. Lists are passed through without a word, and so
is everything that gets no class. -/
namespace ClassMold

namespace ClassTree

mutual

/-- The class and all classes below it, each behind those nested in it. -/
def finished : ClassTree → List ClassTree
  | node name depth fields nested => finishedAll nested ++ [node name depth fields nested]

/-- The classes of several trees, one tree after another. -/
def finishedAll : List ClassTree → List ClassTree
  | [] => []
  | c :: rest => c.finished ++ finishedAll rest

end

/-- The report of a class. -/
def report (c : ClassTree) : Notice := .built c.name c.depth c.fields.length c.nested.length

/-- The line that the report of a class is shown as. -/
def reportLine (c : ClassTree) : Text :=
  "DEBUG gsonclassgen.builder: Built class " ++ c.name ++ " (depth " ++ Text.ofInt c.depth ++ ") with " ++
    Text.ofNat c.fields.length ++ " fields and " ++ Text.ofNat c.nested.length ++ " nested classes"

end ClassTree

namespace Reported

variable {ε α β : Type} {step : Reported ε α} {next : α → Reported ε β} {value : α}

theorem bind_notices (ran : step.outcome = .ok value) :
    (step >>= next).notices = step.notices ++ (next value).notices := by
  simp [bind, ran]

end Reported

namespace BuildLog
open Sample Steps Mirroring ClassTree

variable {key name : Text} {depth : Int} {value sample : Sample} {rest members : List (Text × Sample)}
  {fields : List Field} {nested : List ClassTree} {c : ClassTree}

/-! ### Orders -/

/-- From the inside out the classes are the same as on a walk. -/
theorem finished_perm_walk (c : ClassTree) : c.finished.Perm c.walk := by
  refine (walk.mutual_induct (fun c => c.finished.Perm c.walk)
    (fun cs => (finishedAll cs).Perm (walkAll cs)) ?_ ?_ ?_).1 c
  · intro name depth fields nested ih
    exact (List.perm_append_singleton _ _).trans (ih.cons _)
  · exact .nil
  · intro c rest ih ihRest
    exact ih.append ihRest

/-! ### One step -/

/-- A finished class is reported behind whatever its members report. -/
theorem object_notices (ran : (inferMembers depth members).outcome = .ok (fields, nested)) :
    (inferClass name depth (.object members)).notices =
      (inferMembers depth members).notices ++ [report (.node name depth fields nested)] := by
  rw [inferClass, Reported.bind_notices ran]
  rfl

/-- A member without a class reports nothing. -/
theorem plain_notices (plain : IsPlain key value) (ran : (inferMembers depth rest).outcome = .ok (fields, nested)) :
    (inferMembers depth ((key, value) :: rest)).notices = (inferMembers depth rest).notices := by
  obtain ⟨type, -, run⟩ := infer_members_plain depth rest plain
  rw [run, Reported.bind_notices ran]
  exact List.append_nil _

/-- A member with a class reports what that class does. -/
theorem classed_notices {inner : List (Text × Sample)} (classed : IsClassed key value inner)
    (innerRan : (inferClass (elementName key value) (depth + 1) value).outcome = .ok c)
    (ran : (inferMembers depth rest).outcome = .ok (fields, nested)) :
    (inferMembers depth ((key, value) :: rest)).notices =
      (inferClass (elementName key value) (depth + 1) value).notices ++ (inferMembers depth rest).notices := by
  rw [infer_members_classed classed, Reported.bind_notices innerRan, Reported.bind_notices ran]
  exact congrArg _ (List.append_nil _)

/-! ### Runs -/

/-- A run reports the classes of its tree from the inside out. -/
theorem run_notices (ran : (inferClass name depth sample).outcome = .ok c) :
    (inferClass name depth sample).notices = c.finished.map report := by
  refine (objects.mutual_induct
    (fun value => ∀ {name depth c}, (inferClass name depth value).outcome = .ok c →
      (inferClass name depth value).notices = c.finished.map report)
    (fun members => ∀ {depth fields nested}, (inferMembers depth members).outcome = .ok (fields, nested) →
      (inferMembers depth members).notices = (finishedAll nested).map report) ?_ ?_ ?_ ?_ ?_).1 sample ran
  · intro first later ih name depth c ran
    rw [inferClass] at ran ⊢
    exact ih ran
  · intro members ih name depth c ran
    obtain ⟨_, fields, nested, shape, membersRan, rfl⟩ := infer_class_ok_iff.mp ran
    cases shape
    rw [object_notices membersRan, ih membersRan, finished, List.map_append, List.map_singleton]
  · intro value notCons notObject name depth c ran
    obtain ⟨members, _, _, shape, -, -⟩ := infer_class_ok_iff.mp ran
    rw [tip.eq_2 value notCons] at shape
    exact absurd shape (notObject members)
  · intro depth fields nested ran
    cases ran
    rfl
  · intro key value rest ih ihRest depth fields nested ran
    rcases infer_members_cons_ok ran with
      ⟨plain, type, -, others, rfl, tailRan⟩ | ⟨inner, c, others, more, classed, rfl, rfl, innerRan, tailRan⟩
    · rw [plain_notices plain tailRan, ihRest tailRan]
    · rw [classed_notices classed innerRan tailRan, ih innerRan, ihRest tailRan, finishedAll, List.map_append]

/-! ### Lines -/

/-- The report of a class is for debugging, and its line gives the name, the depth and both counts. -/
theorem report_line (c : ClassTree) : (report c).level = .debug ∧ (report c).line = reportLine c := by
  refine ⟨rfl, ?_⟩
  rw [reportLine, report, Notice.line]
  simp only [Notice.message, List.append_assoc]
  rfl

/-- A run that succeeds has reported one class after another, each behind the classes nested in it
and the root last: as many lines as there are classes on a walk of the tree, and
these are as many as the objects that the sample reaches, so that no list adds one. -/
theorem classes_reported_when_finished (name : Text) (depth : Int) (sample : Sample) (c : ClassTree)
    (ran : (inferClass name depth sample).outcome = .ok c) :
    let notices := (inferClass name depth sample).notices
    notices = c.finished.map report ∧
      (∀ notice ∈ notices, notice.level = .debug) ∧ notices.map Notice.line = c.finished.map reportLine ∧
      c.finished.Perm c.walk ∧ notices.length = c.walk.length ∧ notices.length = sample.objects.length := by
  intro notices
  have reported : notices = c.finished.map report := run_notices ran
  have ordered := finished_perm_walk c
  have counted : notices.length = c.walk.length := by
    rw [reported, List.length_map]
    exact ordered.length_eq
  refine ⟨reported, ?_, ?_, ordered, counted, counted.trans (class_runs ran).length_eq⟩
  · rw [reported]
    exact List.forall_mem_map.mpr fun d _ => (report_line d).1
  · rw [reported, List.map_map]
    exact List.map_congr_left fun d _ => (report_line d).2

/-- A fleet whose depots are behind two lists, with classes nested three deep and a class
behind them that has no field. -/
def fleet : Sample := .object [
  ("depots", .list [.list [.object [
    ("truck", .object [("wheels", .list [.object [("size", .int 17)]]), ("plate", .str "B 12")]),
    ("gate", .object [("width", .int 3)])]]]),
  ("owner", .object [])]

theorem fleet_reported :
    ∃ c, (inferClass "Fleet" 0 fleet).outcome = .ok c ∧
      c.walk.map ClassTree.name = ["Fleet", "Depot", "Truck", "Wheel", "Gate", "Owner"] ∧
      c.finished.map ClassTree.name = ["Wheel", "Truck", "Gate", "Depot", "Owner", "Fleet"] ∧
      (inferClass "Fleet" 0 fleet).notices = c.finished.map report := by
  obtain ⟨c, ran, walked, finished⟩ : ∃ c, (inferClass "Fleet" 0 fleet).outcome = .ok c ∧
      c.walk.map ClassTree.name = ["Fleet", "Depot", "Truck", "Wheel", "Gate", "Owner"] ∧
      c.finished.map ClassTree.name = ["Wheel", "Truck", "Gate", "Depot", "Owner", "Fleet"] :=
    ⟨_, rfl, rfl, rfl⟩
  exact ⟨c, ran, walked, finished, (classes_reported_when_finished "Fleet" 0 fleet c ran).1⟩

end BuildLog
end ClassMold
