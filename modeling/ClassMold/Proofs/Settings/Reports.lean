import ClassMold.Proofs.Text.Printable
import ClassMold.Settings.Report

/-! Reports on violations. A text that cannot be printed makes the report fail while it is put
together, so a report that is there can be printed, whatever values it shows. -/
namespace ClassMold.Reports
open Printable Datum

variable {α β : Type} {store : Store} {value : Datum} {t : Text} {marks marks' : List Mark}
  {document : Document}

/-! ### Steps of a report -/

theorem reporting_bind {step : Reporting α} {next : α → Reporting β} {result : β}
    (ran : (step >>= next).run marks = .ok (result, marks')) : ∃ value middle,
      step.run marks = .ok (value, middle) ∧ (next value).run middle = .ok (result, marks') := by
  rw [StateT.run_bind] at ran
  cases first : step.run marks with
  | error e =>
    rw [first] at ran
    cases ran
  | ok pair =>
    rw [first] at ran
    exact ⟨pair.1, pair.2, rfl, ran⟩

theorem reporting_pure {result other : β}
    (ran : (pure result : Reporting β).run marks = .ok (other, marks')) : other = result := by
  cases ran
  rfl

/-- What holds of each result of a step holds of all results in a row. -/
theorem reporting_map {P : β → Prop} {step : α → Reporting β} {items : List α} {results : List β}
    (each : ∀ item marks result marks', (step item).run marks = .ok (result, marks') → P result)
    (ran : (items.mapM step).run marks = .ok (results, marks')) : ∀ result ∈ results, P result := by
  induction items generalizing marks marks' results with
  | nil =>
    rw [List.mapM_nil] at ran
    rw [reporting_pure ran]
    exact List.forall_mem_nil _
  | cons item rest ih =>
    rw [List.mapM_cons] at ran
    obtain ⟨result, middle, first, ran⟩ := reporting_bind ran
    obtain ⟨others, last, more, ran⟩ := reporting_bind ran
    rw [reporting_pure ran]
    exact List.forall_mem_cons.mpr ⟨each _ _ _ _ first, ih more⟩

/-- A step that cannot change the marks. -/
theorem reporting_lift {outcome : Except ReportError α} {result : α}
    (ran : (liftM outcome : Reporting α).run marks = .ok (result, marks')) : outcome = .ok result := by
  cases outcome with
  | error e => cases ran
  | ok value =>
    cases ran
    rfl

/-- Values in a row are shown as a list of what each of them is shown as. -/
theorem reporting_list {P : Text → Prop} {step : α → Reporting Document} {items : List α}
    (each : ∀ item marks result marks', (step item).run marks = .ok (result, marks') → HoldsTexts P result)
    (ran : (do return Document.list (← items.mapM step) : Reporting Document).run marks =
      .ok (document, marks')) : HoldsTexts P document := by
  obtain ⟨documents, middle, mapped, ran⟩ := reporting_bind ran
  rw [reporting_pure ran]
  exact .list (reporting_map each mapped)

/-! ### Values -/

theorem report_text_printable {u : Text} (ran : reportText t = .ok u) : IsPrintable u := by
  unfold reportText at ran
  split at ran
  · rename_i bytes encoded
    cases ran
    exact encode_ok_iff.mp ⟨bytes, encoded⟩
  · cases ran

/-- Bytes are shown as the text that they are, whatever is said where they are none. -/
theorem report_bytes_printable {bytes : Bytes} {cause : Utf8.DecodeError → ReportError}
    (ran : (Utf8.decode bytes).mapError cause = .ok t) : IsPrintable t := by
  cases decoded : Utf8.decode bytes with
  | error e => simp [decoded, Except.mapError] at ran
  | ok u =>
    simp only [decoded, Except.mapError, Except.ok.injEq] at ran
    exact ran ▸ decode_printable decoded

theorem day_printable (day : Day) : IsPrintable day.text := by simp [Day.text]

theorem moment_printable (moment : Moment) : IsPrintable moment.text := by
  have fraction : IsPrintable (fractionText moment.microsecond) := by
    unfold fractionText
    split <;> simp
  have offset : IsPrintable (offsetText moment.offset) := by
    unfold offsetText
    split
    · simp
    · simp
    · split <;> simp
  simp [Moment.text, day_printable, fraction, offset]

theorem report_key_printable (ran : reportKey value = .ok t) : IsPrintable t := by
  cases value with
  | str value => exact report_text_printable ran
  | bool value =>
    cases value <;> cases ran <;> exact printable_string _
  | int value =>
    rw [reportKey] at ran
    split at ran
    · cases ran
    · cases ran
      exact printable_int _
  | bytes value => exact report_bytes_printable ran
  | day value => exact Except.ok.inj ran ▸ day_printable value
  | moment value => exact Except.ok.inj ran ▸ moment_printable value
  | float value => exact Except.ok.inj ran ▸ printable_number _ _
  | null | list value | tuple value | set value | mapping value | shared value =>
    exact Except.ok.inj ran ▸ printable_string _

theorem object_holds {members : List (Text × Document)}
    (each : ∀ member ∈ members, IsPrintable member.1 ∧ HoldsTexts IsPrintable member.2) :
    HoldsTexts IsPrintable (.object members) :=
  .object (fun member listed => (each member listed).1) fun member listed => (each member listed).2

/-- What is shown of a value is of the kind that dots are of, too. -/
theorem hidden_holds {around : List Mark} {mark : Option Mark} {shown : Reporting Document}
    (holds : ∀ marks document marks', shown.run marks = .ok (document, marks') →
      HoldsTexts IsPrintable document)
    (ran : (unlessHidden around mark shown).run marks = .ok (document, marks')) :
    HoldsTexts IsPrintable document := by
  unfold unlessHidden at ran
  obtain ⟨deep, middle, -, ran⟩ := reporting_bind ran
  split at ran
  · rw [reporting_pure ran]
    exact .str (printable_string _)
  · exact holds _ _ _ ran

theorem report_holds (store : Store) (levels : Nat) : ∀ around part value marks document marks',
    (report store levels around part value).run marks = .ok (document, marks') →
      HoldsTexts IsPrintable document := by
  induction levels with
  | zero =>
    intro around part value marks document marks' ran
    unfold report at ran
    refine hidden_holds (fun _ _ _ ran => ?_) ran
    obtain ⟨_, _, -, ran⟩ := reporting_bind ran
    rw [reporting_pure ran]
    exact .str (printable_string _)
  | succ levels ih =>
    intro around part value marks document marks' ran
    unfold report at ran
    refine hidden_holds (fun marks document marks' ran => ?_) ran
    -- One case for each kind of value; the parts of a value are shown with one level less.
    split at ran
    · rw [reporting_pure ran]
      exact .null
    · rw [reporting_pure ran]
      exact .bool _
    · rw [reporting_pure ran]
      exact .int _
    · rw [reporting_pure ran]
      exact .float _
    · obtain ⟨t, _, text, ran⟩ := reporting_bind ran
      rw [reporting_pure ran]
      exact .str (report_text_printable (reporting_lift text))
    · obtain ⟨t, _, text, ran⟩ := reporting_bind ran
      rw [reporting_pure ran]
      exact .str (report_bytes_printable (reporting_lift text))
    · rw [reporting_pure ran]
      exact .str (day_printable _)
    · rw [reporting_pure ran]
      exact .str (moment_printable _)
    · exact reporting_list (fun _ _ _ _ ran => ih _ _ _ _ _ _ ran) ran
    · exact reporting_list (fun _ _ _ _ ran => ih _ _ _ _ _ _ ran) ran
    · exact reporting_list (fun _ _ _ _ ran => ih _ _ _ _ _ _ ran) ran
    · obtain ⟨members, _, mapped, ran⟩ := reporting_bind ran
      rw [reporting_pure ran]
      refine object_holds (reporting_map (fun item marks member marks' ran => ?_) mapped)
      obtain ⟨key, _, keyed, ran⟩ := reporting_bind ran
      obtain ⟨inner, _, shown, ran⟩ := reporting_bind ran
      rw [reporting_pure ran]
      exact ⟨report_key_printable (reporting_lift keyed), ih _ _ _ _ _ _ shown⟩
    · rw [reporting_pure ran]
      exact .null

/-! ### Violations -/

theorem step_holds {step : Step} (ran : step.report = .ok document) : HoldsTexts IsPrintable document := by
  cases step with
  | number value => exact Except.ok.inj ran ▸ .int value
  | name value =>
    rw [Step.report] at ran
    cases shown : reportText value with
    | error e =>
      rw [shown] at ran
      cases ran
    | ok text =>
      rw [shown] at ran
      exact Except.ok.inj ran ▸ .str (report_text_printable shown)

theorem code_printable (requirement : Requirement) : IsPrintable requirement.code := by
  cases requirement <;> exact printable_string _

/-- What a report adds on a requirement. -/
theorem context_holds (requirement : Requirement) : ∀ member ∈ requirement.context,
    IsPrintable member.1 ∧ HoldsTexts IsPrintable member.2 := by
  have worded (concern : Concern) : IsPrintable concern.message := by
    cases concern <;> simp [Concern.message]
  have named (part : Section) : IsPrintable part.name := by
    cases part <;> exact printable_string _
  cases requirement with
  | version => exact List.forall_mem_singleton.mpr ⟨printable_string _, .str (by simp [configVersion])⟩
  | mapping part => exact List.forall_mem_singleton.mpr ⟨printable_string _, .str (named part)⟩
  | satisfying concern => exact List.forall_mem_singleton.mpr ⟨printable_string _, .str (worded concern)⟩
  | _ => exact List.forall_mem_nil _

theorem violation_holds {v : Violation}
    (ran : (v.report store).run marks = .ok (document, marks')) : HoldsTexts IsPrintable document := by
  unfold Violation.report at ran
  obtain ⟨location, _, located, ran⟩ := reporting_bind ran
  obtain ⟨message, _, worded, ran⟩ := reporting_bind ran
  obtain ⟨input, _, shown, ran⟩ := reporting_bind ran
  rw [reporting_pure ran]
  have steps : ∀ step ∈ location, HoldsTexts IsPrintable step :=
    reporting_map (fun _ _ _ _ ran => step_holds (reporting_lift ran)) located
  have said : IsPrintable message := report_text_printable (reporting_lift worded)
  have value : HoldsTexts IsPrintable input := report_holds store shownLevels _ _ _ _ _ _ shown
  have code : IsPrintable v.requirement.code := code_printable _
  have url : IsPrintable ("https://errors.pydantic.dev/2.14/v/" ++ v.requirement.code) := by simp [code]
  refine object_holds (List.forall_mem_append.mpr ⟨List.forall_mem_append.mpr ⟨?start, ?context⟩, ?last⟩)
  case start =>
    simp only [List.forall_mem_cons, printable_string, true_and]
    exact ⟨.str code, .list steps, .str said, value, List.forall_mem_nil _⟩
  case context =>
    split
    · exact List.forall_mem_nil _
    · exact List.forall_mem_singleton.mpr ⟨printable_string _, object_holds (context_holds _)⟩
  case last => exact List.forall_mem_singleton.mpr ⟨printable_string _, .str url⟩

/-- A report on violations can be printed. -/
theorem report_all_printable {violations : List Violation}
    (reported : Violation.reportAll store violations = .ok t) : IsPrintable t := by
  unfold Violation.reportAll at reported
  cases ran : (violations.mapM (Violation.report store)).run [] with
  | error e =>
    rw [ran] at reported
    cases reported
  | ok pair =>
    obtain ⟨items, marks⟩ := pair
    rw [ran] at reported
    have each : ∀ item ∈ items, HoldsTexts IsPrintable item :=
      reporting_map (fun _ _ _ _ ran => violation_holds ran) ran
    rw [← Except.ok.inj reported]
    exact document_printable (.list each) (fun _ => literal_printable) 0

end ClassMold.Reports
