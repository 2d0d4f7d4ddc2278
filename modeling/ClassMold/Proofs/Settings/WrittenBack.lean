import ClassMold.Proofs.Settings.Verdicts

/-! An accepted configuration can be written back as an object with all of its settings: that object is
accepted in turn, as the same configuration, and without a warning, since setters have already given
way to final fields where both were asked for. -/
namespace ClassMold.WrittenBack
open OutputOptions Flags Accepted Verdicts

variable {entries : List (Datum × Datum)} {name : Text} {store : Store} {data : Datum}
  {options : OutputOptions} {config : RunConfig}

/-- All options, each with its value. -/
def optionMembers (options : OutputOptions) : List (Text × Sample) := [
  ("getters", .bool options.getters), ("setters", .bool options.setters),
  ("final_fields", .bool options.finalFields), ("field_constructor", .bool options.fieldConstructor),
  ("boxed_primitives", .bool options.boxedPrimitives)]

/-- All settings of a configuration, each with its value. -/
def settingMembers (config : RunConfig) : List (Text × Sample) := [
  ("gsonclassgen_config_version", .str config.version), ("input", .str config.input),
  ("class_name", .str config.className), ("output_dir", .str config.outputDir),
  ("options", .object (optionMembers config.options))]

/-- Whether options ask for both final fields and setters. -/
def IsBoth (options : Sample) : Prop :=
  options.member? "final_fields" = some (.bool true) ∧ options.member? "setters" = some (.bool true)

/-- Whether the options of a configuration ask for both. -/
def AsksForBoth (d : Sample) : Prop := ∃ options, d.member? "options" = some options ∧ IsBoth options

/-! ### Options -/

/-- Options without a conflict are accepted as they are written. -/
theorem options_written (apart : ¬ (options.finalFields = true ∧ options.setters = true)) :
    OutputOptions.validate .empty (Datum.ofSample (.object (optionMembers options))) = ⟨[], .ok options⟩ := by
  obtain ⟨getters, setters, finalFields, fieldConstructor, boxedPrimitives⟩ := options
  cases setters <;> cases finalFields
  · rfl
  · rfl
  · rfl
  · exact absurd ⟨rfl, rfl⟩ apart

/-! ### Settings -/

theorem text_written {concern? : Text → Option Concern} {whole : Datum} {text : Text}
    (written : Datum.entry? name entries = some (.str text)) (legal : concern? text = none) :
    (RunConfig.checkText concern? whole entries name).outcome = .ok text := by
  simp [RunConfig.checkText, written, RunConfig.checkGiven, RunConfig.textOf, legal, outcome_ok_iff]

/-- Whatever is accepted is accepted again, as the same configuration, once it is written back. -/
theorem accepted_again (accepted : (RunConfig.validate store data).outcome = .ok config) :
    RunConfig.validate .empty (Datum.ofSample (.object (settingMembers config))) = ⟨[], .ok config⟩ := by
  obtain ⟨entries, -, checked⟩ := accepted_parts accepted
  obtain ⟨-, version, input, className, -, -⟩ := check_ok_iff.mp checked
  have options : RunConfig.optionsVerdict .empty (Datum.ofMembers (settingMembers config)) =
      ⟨[], .ok config.options⟩ := options_written (accepted_apart accepted)
  have again : (RunConfig.check .empty (Datum.ofSample (.object (settingMembers config)))
      (Datum.ofMembers (settingMembers config))).outcome = .ok config := by
    refine check_ok_iff.mpr ⟨rfl, ?_, text_written rfl (text_legal input),
      text_written rfl (text_legal className), rfl, ?_⟩
    · rw [settingMembers, version_legal version]
      rfl
    · rw [RunConfig.checkOptions, options]
      rfl
  rw [object_verdict, options, again]

/-! ### Warnings -/

theorem conflict_given (flags : List (Text × Sample)) :
    conflict (Datum.ofMembers flags) = true ↔ IsBoth (.object flags) := by
  have truth (name : Text) : Datum.entry? name (Datum.ofMembers flags) = some (.bool true) ↔
      (Sample.object flags).member? name = some (.bool true) := by
    rw [entry_given, Requirements.given]
    cases (Sample.object flags).member? name with
    | none => simp
    | some value => cases value <;> simp [Datum.ofSample]
  rw [conflict_iff, truth, truth, IsBoth]

/-- Options warn once if they ask for both and otherwise not at all, even if they are refused. -/
theorem options_notices (options : Sample) :
    (IsBoth options ∧ (OutputOptions.validate .empty (Datum.ofSample options)).notices = [.settersDisabled]) ∨
      (¬ IsBoth options ∧ (OutputOptions.validate .empty (Datum.ofSample options)).notices = []) := by
  have silent (absent : options.member? "setters" = none) : ¬ IsBoth options := by
    simp [IsBoth, absent]
  cases options with
  | object flags =>
    rw [object_options_verdict, ← conflict_given]
    cases conflict (Datum.ofMembers flags) <;> simp
  | _ => exact .inr ⟨silent rfl, rfl⟩

/-- A configuration warns as its options do. -/
theorem config_notices (d : Sample) :
    (AsksForBoth d ∧ (RunConfig.validate .empty (Datum.ofSample d)).notices = [.settersDisabled]) ∨
      (¬ AsksForBoth d ∧ (RunConfig.validate .empty (Datum.ofSample d)).notices = []) := by
  have silent (absent : d.member? "options" = none) : ¬ AsksForBoth d := by
    simp [AsksForBoth, absent]
  cases d with
  | object members =>
    rw [object_verdict, RunConfig.optionsVerdict, entry_given, Requirements.given]
    cases found : (Sample.object members).member? "options" with
    | none => exact .inr ⟨silent found, rfl⟩
    | some options => simpa [AsksForBoth, found] using options_notices options
  | _ => exact .inr ⟨silent rfl, rfl⟩

/-! ### Configurations written back -/

/-- An accepted configuration that is written back with all of its settings is accepted as it is and
without a warning, and it never has both final fields and setters. A warning is given on the way there
exactly if both were asked for. -/
theorem written_back_accepted (d : Sample) :
    ((RunConfig.validate .empty (Datum.ofSample d)).notices = [.settersDisabled] ↔ AsksForBoth d) ∧
    ((RunConfig.validate .empty (Datum.ofSample d)).notices = [] ↔ ¬ AsksForBoth d) ∧
    ∀ config, (RunConfig.validate .empty (Datum.ofSample d)).outcome = .ok config →
      ¬ (config.options.finalFields = true ∧ config.options.setters = true) ∧
      RunConfig.validate .empty (Datum.ofSample (.object (settingMembers config))) = ⟨[], .ok config⟩ := by
  refine ⟨?_, ?_, fun config accepted => ⟨accepted_apart accepted, accepted_again accepted⟩⟩
  · rcases config_notices d with ⟨both, notices⟩ | ⟨apart, notices⟩ <;> simp [*]
  · rcases config_notices d with ⟨both, notices⟩ | ⟨apart, notices⟩ <;> simp [*]

/-- A configuration that leaves out what it can and asks for both final fields and setters. -/
def torn : Sample := .object [("class_name", .str "Order"), ("input", .str "order.json"),
  ("options", .object [("setters", .bool true), ("final_fields", .bool true)])]

/-- The configuration that it is accepted as. -/
def settledTorn : RunConfig := ⟨"1.0", "order.json", "Order", ".", { finalFields := true }⟩

/-- The warning is given on the first pass only. -/
theorem torn_written_back : (RunConfig.validate .empty (Datum.ofSample torn)).notices = [.settersDisabled] ∧
    RunConfig.validate .empty (Datum.ofSample (.object (settingMembers settledTorn))) = ⟨[], .ok settledTorn⟩ := by
  have accepted : (RunConfig.validate .empty (Datum.ofSample torn)).outcome = .ok settledTorn := by
    rfl
  obtain ⟨warned, -, again⟩ := written_back_accepted torn
  exact ⟨warned.mpr ⟨_, rfl, rfl, rfl⟩, (again settledTorn accepted).2⟩

end ClassMold.WrittenBack
