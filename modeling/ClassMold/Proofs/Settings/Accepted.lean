import ClassMold.Proofs.Settings.Flags

/-! What an accepted configuration says. Its options are the flags as they are written, but
that setters give way to final fields; its class name is an identifier. Settling the
conflict a second time changes nothing, so it does not matter when it is done. -/
namespace ClassMold.Accepted
open OutputOptions Flags

variable {entries : List (Datum × Datum)} {name key : Text} {value data : Datum} {store : Store}
  {options : OutputOptions} {config : RunConfig}

/-! ### Options -/

/-- Whether a flag is set among some entries. -/
def isSet (entries : List (Datum × Datum)) (name : Text) : Bool :=
  match Datum.entry? name entries with
  | some (.bool value) => value
  | _ => false

/-- The flags as entries write them. -/
def asWritten (entries : List (Datum × Datum)) : OutputOptions where
  getters := isSet entries "getters"
  setters := isSet entries "setters"
  finalFields := isSet entries "final_fields"
  fieldConstructor := isSet entries "field_constructor"
  boxedPrimitives := isSet entries "boxed_primitives"

/-- Options with setters only where fields are not final. -/
def settled (options : OutputOptions) : OutputOptions :=
  { options with setters := options.setters && !options.finalFields }

theorem settled_settled (options : OutputOptions) : settled (settled options) = settled options := by
  simp [settled]

theorem settled_apart (options : OutputOptions) :
    ¬ ((settled options).finalFields = true ∧ (settled options).setters = true) := by
  rintro ⟨final, setters⟩
  simp only [settled] at final setters
  simp [final] at setters

theorem flag_value (entries : List (Datum × Datum)) (name : Text) :
    (checkFlag entries name).value = isSet entries name := by
  unfold checkFlag isSet
  split <;> simp_all

/-- Setting an entry leaves the others alone. -/
theorem entry_set_other (apart : name ≠ key) (value : Datum) (entries : List (Datum × Datum)) :
    Datum.entry? name (Datum.setEntry (.str key) value entries) = Datum.entry? name entries := by
  induction entries with
  | nil => simp [Datum.setEntry, Datum.entry?, Datum.sameKey, Ne.symm apart]
  | cons entry rest ih =>
    obtain ⟨k, held⟩ := entry
    by_cases same : k.sameKey (.str key) = true
    · obtain rfl := same_key_text.mp same
      simp [Datum.setEntry, Datum.entry?, Datum.sameKey, Ne.symm apart]
    · by_cases found : k.sameKey (.str name) = true
      · simp [Datum.setEntry, Datum.entry?, same, found]
      · simpa [Datum.setEntry, Datum.entry?, same, found] using ih

theorem resolved_other (apart : name ≠ "setters") :
    isSet (resolveConflict entries) name = isSet entries name := by
  unfold resolveConflict
  by_cases both : conflict entries = true
  · simp [both, isSet, entry_set_other apart]
  · simp [both]

theorem resolved_setters : isSet (resolveConflict entries) "setters" =
    (isSet entries "setters" && !isSet entries "final_fields") := by
  unfold resolveConflict
  by_cases both : conflict entries = true
  · obtain ⟨final, setters⟩ := conflict_iff.mp both
    simp [both, isSet, entry_set, final, setters]
  · -- Without a conflict one of the two is off as it is written.
    have apart : ¬ (isSet entries "final_fields" = true ∧ isSet entries "setters" = true) := by
      rintro ⟨final, setters⟩
      refine both (conflict_iff.mpr ⟨?_, ?_⟩)
      · unfold isSet at final
        split at final <;> simp_all
      · unfold isSet at setters
        split at setters <;> simp_all
    rw [if_neg both]
    cases final : isSet entries "final_fields" <;> cases setters : isSet entries "setters" <;> simp_all

theorem accepted_options (accepted : (OutputOptions.validate store data).outcome = .ok options) :
    ∃ entries, store.look data = .mapping entries ∧ options = settled (asWritten entries) := by
  unfold OutputOptions.validate at accepted
  split at accepted
  · rename_i entries looked
    obtain ⟨-, rfl⟩ := outcome_ok_iff.mp accepted
    refine ⟨entries, looked, ?_⟩
    rw [check, with_keys_value]
    simp only [flag_value, resolved_setters]
    rw [resolved_other (by decide), resolved_other (by decide), resolved_other (by decide),
      resolved_other (by decide)]
    rfl
  · cases accepted

/-! ### Configurations -/

/-- The options that a configuration gives, as they are written there. -/
def writtenOptions (store : Store) (entries : List (Datum × Datum)) : OutputOptions :=
  match Datum.entry? "options" entries with
  | none => {}
  | some input =>
    match store.look input with
    | .mapping flags => asWritten flags
    | _ => {}

theorem given_legal {concern? : Text → Option Concern} {input : Datum}
    (clean : (RunConfig.checkGiven concern? name input).violations = []) :
    concern? (RunConfig.checkGiven concern? name input).value = none := by
  unfold RunConfig.checkGiven at clean ⊢
  split at clean
  · cases clean
  · split at clean
    · rename_i value taken unconcerned
      simp [unconcerned]
    · cases clean

/-- Options are never refused without a reason. -/
theorem refused_for_reason : (OutputOptions.validate store data).outcome ≠ .error [] := by
  unfold OutputOptions.validate
  split
  · rename_i entries looked
    unfold Checked.outcome
    cases (check (resolveConflict entries)).violations <;> simp
  · simp

theorem options_accepted (clean : (RunConfig.checkOptions store entries).violations = []) :
    (RunConfig.checkOptions store entries).value = settled (writtenOptions store entries) := by
  unfold RunConfig.checkOptions RunConfig.optionsVerdict writtenOptions at *
  cases given : Datum.entry? "options" entries with
  | none => rfl
  | some input =>
    cases validated : (OutputOptions.validate store input).outcome with
    | ok options =>
      obtain ⟨flags, looked, rfl⟩ := accepted_options validated
      simp [looked]
    | error violations =>
      simp only [given, validated, List.map_eq_nil_iff] at clean
      exact absurd (clean ▸ validated) refused_for_reason

theorem text_legal {concern? : Text → Option Concern} {whole : Datum} {text : Text}
    (accepted : (RunConfig.checkText concern? whole entries name).outcome = .ok text) : concern? text = none := by
  obtain ⟨clean, rfl⟩ := outcome_ok_iff.mp accepted
  unfold RunConfig.checkText at clean ⊢
  cases given : Datum.entry? name entries with
  | none => simp [given] at clean
  | some input =>
    simp only [given] at clean ⊢
    exact given_legal clean

theorem version_legal {version : Text} (accepted : (RunConfig.checkVersion entries).outcome = .ok version) :
    version = configVersion := by
  obtain ⟨-, rfl⟩ := outcome_ok_iff.mp accepted
  unfold RunConfig.checkVersion
  simp only
  split
  · rfl
  · split
    · rfl
    · split
      · assumption
      · rfl
  · rfl

/-- A configuration is accepted if each of its parts is, and no key is blamed. -/
theorem check_ok_iff {whole : Datum} : (RunConfig.check store whole entries).outcome = .ok config ↔
    checkKeys RunConfig.names entries = .ok [] ∧
      (RunConfig.checkVersion entries).outcome = .ok config.version ∧
      (RunConfig.checkText RunConfig.inputConcern? whole entries "input").outcome = .ok config.input ∧
      (RunConfig.checkText RunConfig.classNameConcern? whole entries "class_name").outcome =
        .ok config.className ∧
      (RunConfig.checkOutputDir entries).outcome = .ok config.outputDir ∧
      (RunConfig.checkOptions store entries).outcome = .ok config.options := by
  rw [RunConfig.check, with_keys_ok_iff]
  obtain ⟨version, input, className, outputDir, options⟩ := config
  simp only [outcome_ok_iff, List.append_eq_nil_iff, RunConfig.mk.injEq]
  refine and_congr_right fun _ => ⟨?_, ?_⟩
  · rintro ⟨⟨⟨⟨⟨v, i⟩, c⟩, o⟩, f⟩, v', i', c', o', f'⟩
    exact ⟨⟨v, v'⟩, ⟨i, i'⟩, ⟨c, c'⟩, ⟨o, o'⟩, f, f'⟩
  · rintro ⟨⟨v, v'⟩, ⟨i, i'⟩, ⟨c, c'⟩, ⟨o, o'⟩, f, f'⟩
    exact ⟨⟨⟨⟨⟨v, i⟩, c⟩, o⟩, f⟩, v', i', c', o', f'⟩

theorem accepted_parts (accepted : (RunConfig.validate store data).outcome = .ok config) :
    ∃ entries, store.look data = .mapping entries ∧
      (RunConfig.check store data entries).outcome = .ok config := by
  unfold RunConfig.validate at accepted
  split at accepted
  · rename_i entries looked
    exact ⟨entries, looked, accepted⟩
  · cases accepted

/-- An accepted configuration is a mapping with a legal class name, and its options are those
that it writes. -/
theorem accepted_config (accepted : (RunConfig.validate store data).outcome = .ok config) :
    ∃ entries, store.look data = .mapping entries ∧ config.className.isIdentifier = true ∧
      config.options = settled (writtenOptions store entries) := by
  obtain ⟨entries, looked, checked⟩ := accepted_parts accepted
  obtain ⟨-, -, -, className, -, options⟩ := check_ok_iff.mp checked
  obtain ⟨clean, same⟩ := outcome_ok_iff.mp options
  refine ⟨entries, looked, ?_, same.symm.trans (options_accepted clean)⟩
  have legal := text_legal className
  unfold RunConfig.classNameConcern? at legal
  split at legal
  · assumption
  · cases legal

/-- The options of an accepted configuration never have both flags, wherever they come from. -/
theorem accepted_apart (accepted : (RunConfig.validate store data).outcome = .ok config) :
    ¬ (config.options.finalFields = true ∧ config.options.setters = true) := by
  obtain ⟨entries, -, -, options⟩ := accepted_config accepted
  exact options ▸ settled_apart _

end ClassMold.Accepted
