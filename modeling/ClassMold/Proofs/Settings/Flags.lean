import ClassMold.Settings.RunConfig

/-! How the truth values of the options are read. A flag is used only if nothing at all
is violated, and then it is what its entry says, or false where there is none. Since the
entry for setters is overwritten before that, they are never asked for beside final fields. -/
namespace ClassMold.Flags
open OutputOptions

variable {α : Type} {checked : Checked α} {known : List Text} {entries : List (Datum × Datum)}
  {name : Text} {store : Store} {data : Datum} {options : OutputOptions}

/-! ### Entries -/

theorem same_key_text {key : Datum} : key.sameKey (.str name) = true ↔ key = .str name := by
  cases key with
  | str other => simp [Datum.sameKey]
  | _ => simp [Datum.sameKey]

/-- An entry that was set is found. -/
theorem entry_set (name : Text) (value : Datum) (entries : List (Datum × Datum)) :
    Datum.entry? name (Datum.setEntry (.str name) value entries) = some value := by
  induction entries with
  | nil => simp [Datum.setEntry, Datum.entry?, same_key_text]
  | cons entry rest ih =>
    obtain ⟨key, held⟩ := entry
    by_cases same : key.sameKey (.str name) = true
    · simp [Datum.setEntry, Datum.entry?, same]
    · simpa [Datum.setEntry, Datum.entry?, same] using ih

/-! ### Verdicts -/

theorem outcome_ok_iff {value : α} :
    checked.outcome = .ok value ↔ checked.violations = [] ∧ checked.value = value := by
  unfold Checked.outcome
  cases checked.violations <;> simp

theorem with_keys_value : (checked.withKeys known entries).value = checked.value := by
  unfold Checked.withKeys
  split <;> rfl

theorem with_keys_clean (clean : (checked.withKeys known entries).violations = []) :
    checked.violations = [] := by
  unfold Checked.withKeys at clean
  split at clean
  · exact (List.append_eq_nil_iff.mp clean).1
  · cases clean

theorem with_keys_ok_iff {value : α} : (checked.withKeys known entries).outcome = .ok value ↔
    checkKeys known entries = .ok [] ∧ checked.outcome = .ok value := by
  simp only [outcome_ok_iff, with_keys_value]
  unfold Checked.withKeys
  cases checkKeys known entries with
  | ok violations => simp [and_comm, and_left_comm]
  | error violation => simp

theorem flag_true_iff (clean : (checkFlag entries name).violations = []) :
    (checkFlag entries name).value = true ↔ Datum.entry? name entries = some (.bool true) := by
  unfold checkFlag at clean ⊢
  cases given : Datum.entry? name entries with
  | none => simp
  | some input =>
    rw [given] at clean
    cases input with
    | bool value => simp
    | _ => cases clean

/-! ### Options -/

theorem conflict_iff : conflict entries = true ↔
    Datum.entry? "final_fields" entries = some (.bool true) ∧
      Datum.entry? "setters" entries = some (.bool true) := by
  unfold conflict
  split
  · rename_i final setters
    simp [final, setters]
  · rename_i other
    simpa using fun final setters => other final setters

/-- Both flags of accepted options are read off the same entries, with the conflict resolved. -/
theorem accepted_flags (accepted : (validate store data).outcome = .ok options) :
    ∃ entries, store.look data = .mapping entries ∧
      (options.finalFields = true ↔
        Datum.entry? "final_fields" (resolveConflict entries) = some (.bool true)) ∧
      (options.setters = true ↔
        Datum.entry? "setters" (resolveConflict entries) = some (.bool true)) := by
  unfold validate at accepted
  split at accepted
  · rename_i entries looked
    obtain ⟨clean, rfl⟩ := outcome_ok_iff.mp accepted
    have flags := with_keys_clean clean
    simp only [List.append_eq_nil_iff] at flags
    obtain ⟨⟨⟨⟨-, setters⟩, final⟩, -⟩, -⟩ := flags
    refine ⟨entries, looked, ?_, ?_⟩
    · rw [check, with_keys_value]
      exact flag_true_iff final
    · rw [check, with_keys_value]
      exact flag_true_iff setters
  · cases accepted

/-- Setters give way to final fields, even if both were asked for. -/
theorem setters_give_way (accepted : (validate store data).outcome = .ok options)
    (final : options.finalFields = true) : options.setters = false := by
  obtain ⟨entries, -, finalRead, settersRead⟩ := accepted_flags accepted
  refine Bool.eq_false_iff.mpr fun asked => ?_
  have finalGiven := finalRead.mp final
  have settersGiven := settersRead.mp asked
  by_cases both : conflict entries = true
  · rw [resolveConflict, if_pos both, entry_set] at settersGiven
    cases settersGiven
  · rw [resolveConflict, if_neg both] at finalGiven settersGiven
    exact both (conflict_iff.mpr ⟨finalGiven, settersGiven⟩)

end ClassMold.Flags
