import ClassMold.Proofs.Settings.Accepted
import ClassMold.Proofs.Settings.Requirements

/-! Which configurations are accepted, and what is reported of the others. The check of each setting
reports at its own place, at most once, and exactly if the requirement there is violated; so do the
checks of the keys. Put one after another they report every violation, in the fixed order of the
places. -/
namespace ClassMold.Verdicts
open Sample Values Printable Flags Accepted Requirements

variable {members flags : List (Text × Sample)} {name : Text} {value : Sample} {known : List Text}
  {location : List Step} {requirement : Requirement} {violations more : List Violation}

/-! ### Entries -/

theorem entry_given (members : List (Text × Sample)) (name : Text) :
    Datum.entry? name (Datum.ofMembers members) = (given members name).map Datum.ofSample := by
  induction members with
  | nil => rfl
  | cons member rest ih =>
    obtain ⟨key, value⟩ := member
    rw [given_cons]
    by_cases same : key = name
    · simp [Datum.ofMembers, Datum.entry?, Datum.sameKey, same]
    · rw [if_neg same, ← ih]
      simp [Datum.ofMembers, Datum.entry?, Datum.sameKey, same]

theorem object_options_verdict (flags : List (Text × Sample)) :
    OutputOptions.validate .empty (Datum.ofSample (.object flags)) =
      { notices := if OutputOptions.conflict (Datum.ofMembers flags) then [.settersDisabled] else []
        outcome := (OutputOptions.check (OutputOptions.resolveConflict (Datum.ofMembers flags))).outcome } := rfl

theorem object_verdict (members : List (Text × Sample)) :
    RunConfig.validate .empty (Datum.ofSample (.object members)) =
      { notices := (RunConfig.optionsVerdict .empty (Datum.ofMembers members)).notices
        outcome := (RunConfig.check .empty (Datum.ofSample (.object members)) (Datum.ofMembers members)).outcome } :=
  rfl

/-- Where no key holds a lone surrogate, the keys are blamed that are none of the known ones. -/
theorem keys_checked (printable : ∀ member ∈ members, IsPrintable member.1) :
    checkKeys known (Datum.ofMembers members) = .ok ((unknownMembers known members).map fun member =>
      violationAt .known member.1 (Datum.ofSample member.2)) := by
  induction members with
  | nil => rfl
  | cons member rest ih =>
    obtain ⟨key, value⟩ := member
    obtain ⟨plain, others⟩ := List.forall_mem_cons.mp printable
    have noSurrogate : key.any Utf8.isSurrogate = false :=
      List.any_eq_false.mpr fun c listed => Bool.eq_false_iff.mp (plain c listed)
    rw [Datum.ofMembers, checkKeys]
    simp only [noSurrogate, Bool.false_eq_true, if_false, ih others]
    by_cases listed : key ∈ known <;> simp [unknownMembers, listed, Except.map]

/-! ### What is told of some places -/

/-- Some violations tell what is violated at some places: they are at some of them, in their order,
and they are those that are there. -/
structure Tells (members : List (Text × Sample)) (places : List (List Step)) (violations : List Violation) :
    Prop where
  order : (violations.map Violation.location).Sublist places
  exact : ∀ location requirement, (∃ v ∈ violations, v.location = location ∧ v.requirement = requirement) ↔
    location ∈ places ∧ Violates members location requirement

theorem tells_nil : Tells members [] [] where
  order := .slnil
  exact := by simp

theorem tells_append {front back : List (List Step)} (first : Tells members front violations)
    (second : Tells members back more) : Tells members (front ++ back) (violations ++ more) where
  order := by
    rw [List.map_append]
    exact first.order.append second.order
  exact location requirement := by
    simp only [List.mem_append, or_and_right, exists_or, first.exact, second.exact]

theorem tells_clean {place : List Step} (clean : ∀ requirement, ¬ Violates members place requirement) :
    Tells members [place] [] where
  order := List.nil_sublist _
  exact location requirement := by
    simp only [List.not_mem_nil, false_and, exists_false, List.mem_singleton, false_iff, not_and]
    rintro rfl
    exact clean requirement

theorem tells_fault {v : Violation}
    (only : ∀ requirement, Violates members v.location requirement ↔ requirement = v.requirement) :
    Tells members [v.location] [v] where
  order := List.Sublist.refl _
  exact location requirement := by
    simp only [List.mem_singleton, exists_eq_left]
    constructor
    · rintro ⟨rfl, rfl⟩
      exact ⟨rfl, (only _).mpr rfl⟩
    · rintro ⟨rfl, violated⟩
      exact ⟨rfl, ((only _).mp violated).symm⟩

/-- What is told of each of some places is told of all in a row. -/
theorem tells_all {α : Type} {items : List α} {place : α → List Step} {found : α → List Violation}
    (each : ∀ item ∈ items, Tells members [place item] (found item)) :
    Tells members (items.map place) (items.flatMap found) := by
  induction items with
  | nil => exact tells_nil
  | cons item rest ih =>
    obtain ⟨first, others⟩ := List.forall_mem_cons.mp each
    exact tells_append first (ih others)

/-! ### Settings -/

theorem tells_setting (input : Datum)
    (only : ∀ other, Violates members (atSetting name) other ↔ other = requirement) :
    Tells members [atSetting name] [violationAt requirement name input] :=
  tells_fault (v := violationAt requirement name input) only

theorem text_of_other (other : ∀ text, value ≠ .str text) :
    RunConfig.textOf (Datum.ofSample value) = .error .text := by
  cases value with
  | str text => exact absurd rfl (other text)
  | _ => rfl

theorem tells_version (json : IsValue IsPrintable (.object members)) :
    Tells members [atSetting "gsonclassgen_config_version"]
      (RunConfig.checkVersion (Datum.ofMembers members)).violations := by
  unfold RunConfig.checkVersion
  simp only [entry_given]
  cases found : given members "gsonclassgen_config_version" with
  | none =>
    refine tells_clean fun requirement violates => ?_
    simp [violates_setting_iff, of_string_inj, found, RunConfig.names] at violates
  | some value =>
    rcases text_or_other value with ⟨text, rfl⟩ | other
    · have plain : text.any Utf8.isSurrogate = false :=
        List.any_eq_false.mpr fun c listed => Bool.eq_false_iff.mp (given_text json found c listed)
      simp only [Option.map_some, Datum.ofSample, plain, Bool.false_eq_true, if_false]
      by_cases same : text = configVersion
      · rw [if_pos same]
        refine tells_clean fun requirement violates => ?_
        simp [violates_setting_iff, of_string_inj, found, RunConfig.names, same, configVersion] at violates
      · rw [if_neg same]
        refine tells_setting _ fun requirement => ?_
        rw [configVersion] at same
        simp [violates_setting_iff, of_string_inj, found, RunConfig.names, same]
    · have found : Tells members [atSetting "gsonclassgen_config_version"]
          [violationAt .version "gsonclassgen_config_version" (Datum.ofSample value)] := by
        refine tells_setting _ fun requirement => ?_
        simp [violates_setting_iff, of_string_inj, found, RunConfig.names, other]
      cases value with
      | str text => exact absurd rfl (other text)
      | _ => exact found

/-- A given text is blamed for what concerns it, and any other value for not being a text. -/
theorem tells_given {concern? : Text → Option Concern}
    (violated : ∀ requirement, Violates members (atSetting name) requirement ↔
      (requirement = .text ∧ ∀ text, value ≠ .str text) ∨
      ∃ text concern, value = .str text ∧ concern? text = some concern ∧ requirement = .satisfying concern) :
    Tells members [atSetting name] (RunConfig.checkGiven concern? name (Datum.ofSample value)).violations := by
  unfold RunConfig.checkGiven
  rcases text_or_other value with ⟨text, rfl⟩ | other
  · simp only [Datum.ofSample, RunConfig.textOf]
    cases concerned : concern? text with
    | none =>
      refine tells_clean fun requirement violates => ?_
      simp [violated, concerned] at violates
    | some concern =>
      refine tells_setting _ fun requirement => ?_
      simp [violated, concerned]
  · rw [text_of_other other]
    refine tells_setting _ fun requirement => ?_
    simp [violated, other]

theorem tells_input (whole : Datum) (members : List (Text × Sample)) :
    Tells members [atSetting "input"]
      (RunConfig.checkText RunConfig.inputConcern? whole (Datum.ofMembers members) "input").violations := by
  unfold RunConfig.checkText
  rw [entry_given]
  cases found : given members "input" with
  | none =>
    refine tells_setting _ fun requirement => ?_
    simp [violates_setting_iff, of_string_inj, found, RunConfig.names]
  | some value =>
    refine tells_given fun requirement => ?_
    simp [violates_setting_iff, of_string_inj, found, RunConfig.names, RunConfig.inputConcern?,
      Text.isBlank, and_comm, and_left_comm]

theorem tells_class_name (whole : Datum) (members : List (Text × Sample)) :
    Tells members [atSetting "class_name"]
      (RunConfig.checkText RunConfig.classNameConcern? whole (Datum.ofMembers members) "class_name").violations := by
  unfold RunConfig.checkText
  rw [entry_given]
  cases found : given members "class_name" with
  | none =>
    refine tells_setting _ fun requirement => ?_
    simp [violates_setting_iff, of_string_inj, found, RunConfig.names]
  | some value =>
    refine tells_given fun requirement => ?_
    simp [violates_setting_iff, of_string_inj, found, RunConfig.names, RunConfig.classNameConcern?,
      and_comm, and_left_comm]

theorem tells_output_dir (members : List (Text × Sample)) :
    Tells members [atSetting "output_dir"] (RunConfig.checkOutputDir (Datum.ofMembers members)).violations := by
  unfold RunConfig.checkOutputDir
  rw [entry_given]
  cases found : given members "output_dir" with
  | none =>
    refine tells_clean fun requirement violates => ?_
    simp [violates_setting_iff, of_string_inj, found, RunConfig.names] at violates
  | some value =>
    refine tells_given fun requirement => ?_
    simp [violates_setting_iff, of_string_inj, found, RunConfig.names]

/-! ### Options -/

variable {entries : List (Datum × Datum)}

/-- To overwrite the entry of a known key leaves the violations of the keys alone. -/
theorem check_keys_set {old : Datum} (listed : name ∈ known) (plain : name.any Utf8.isSurrogate = false)
    (present : Datum.entry? name entries = some old) (value : Datum) :
    checkKeys known (Datum.setEntry (.str name) value entries) = checkKeys known entries := by
  induction entries with
  | nil => cases present
  | cons entry rest ih =>
    obtain ⟨key, held⟩ := entry
    by_cases same : key.sameKey (.str name) = true
    · obtain rfl := same_key_text.mp same
      simp [Datum.setEntry, same, checkKeys, plain, listed]
    · have later : Datum.entry? name rest = some old := by simpa [Datum.entry?, same] using present
      rw [Datum.setEntry, if_neg same]
      unfold checkKeys
      simp only [ih later]

theorem resolved_keys : checkKeys OutputOptions.names (OutputOptions.resolveConflict entries) =
    checkKeys OutputOptions.names entries := by
  unfold OutputOptions.resolveConflict
  split
  · rename_i both
    exact check_keys_set (by decide) (by decide) (conflict_iff.mp both).2 _
  · rfl

theorem resolved_flag (name : Text) : (checkFlag (OutputOptions.resolveConflict entries) name).violations =
    (checkFlag entries name).violations := by
  unfold OutputOptions.resolveConflict
  split
  · rename_i both
    by_cases setters : name = "setters"
    · rw [setters, checkFlag, checkFlag, entry_set, (conflict_iff.mp both).2]
    · rw [checkFlag, checkFlag, entry_set_other setters]
  · rfl

theorem with_keys_violations {α : Type} {checked : Checked α} (keys : checkKeys known entries = .ok violations) :
    (checked.withKeys known entries).violations = checked.violations ++ violations := by
  rw [Checked.withKeys, keys]

theorem options_violations (printable : ∀ flag ∈ flags, IsPrintable flag.1) :
    (OutputOptions.check (OutputOptions.resolveConflict (Datum.ofMembers flags))).violations =
      (OutputOptions.names.flatMap fun name => (checkFlag (Datum.ofMembers flags) name).violations) ++
        (unknownMembers OutputOptions.names flags).map fun flag =>
          violationAt .known flag.1 (Datum.ofSample flag.2) := by
  rw [OutputOptions.check, with_keys_violations (resolved_keys.trans (keys_checked printable))]
  simp only [resolved_flag, OutputOptions.names, List.flatMap_cons, List.flatMap_nil, List.append_assoc,
    List.append_nil]

theorem tells_flag (options : given members "options" = some (.object flags))
    (listed : name ∈ OutputOptions.names) :
    Tells members [atOption name]
      ((checkFlag (Datum.ofMembers flags) name).violations.map (·.under (.name "options"))) := by
  unfold checkFlag
  rw [entry_given]
  cases found : given flags name with
  | none =>
    refine tells_clean fun requirement violates => ?_
    simp [violates_option_iff, options, found, listed] at violates
  | some value =>
    cases value with
    | bool on =>
      refine tells_clean fun requirement violates => ?_
      simp [violates_option_iff, options, found, listed] at violates
    | _ =>
      refine tells_fault (v := (violationAt .truthValue name _).under (.name "options")) fun requirement => ?_
      change Violates members (atOption name) requirement ↔ requirement = .truthValue
      rw [violates_option_iff]
      simp [options, found, listed]

theorem tells_unknown_option (options : given members "options" = some (.object flags))
    {flag : Text × Sample} (listed : flag ∈ unknownMembers OutputOptions.names flags) (input : Datum) :
    Tells members [atOption flag.1] [(violationAt .known flag.1 input).under (.name "options")] := by
  obtain ⟨present, unknown⟩ := List.mem_filter.mp listed
  have key : flag.1 ∈ flags.map Prod.fst := List.mem_map_of_mem present
  refine tells_fault (v := (violationAt .known flag.1 input).under (.name "options")) fun requirement => ?_
  change Violates members (atOption flag.1) requirement ↔ requirement = .known
  rw [violates_option_iff]
  have unknown : flag.1 ∉ OutputOptions.names := by simpa using unknown
  simp only [options, Option.some.injEq, Sample.object.injEq, exists_eq_left', unknown, false_and, false_or,
    key, not_false_eq_true, and_true]

theorem tells_option_members (json : IsValue IsPrintable (.object members))
    (options : given members "options" = some (.object flags)) :
    Tells members (optionPlaces members)
      ((OutputOptions.check (OutputOptions.resolveConflict (Datum.ofMembers flags))).violations.map
        (·.under (.name "options"))) := by
  have printable := value_keys (given_value json options)
  rw [options_violations printable, List.map_append, List.map_flatMap, optionPlaces, options]
  refine tells_append (tells_all fun name listed => tells_flag options listed) ?_
  rw [List.map_map, List.map_eq_flatMap (f := _ ∘ _)]
  exact tells_all fun flag listed => tells_unknown_option options listed _

theorem outcome_error_iff {α : Type} {checked : Checked α} :
    checked.outcome = .error violations ↔ violations ≠ [] ∧ checked.violations = violations := by
  unfold Checked.outcome
  cases checked.violations with
  | nil => simp
  | cons v rest =>
    simp only [Except.error.injEq, ne_eq]
    exact ⟨fun same => ⟨same ▸ List.cons_ne_nil v rest, same⟩, And.right⟩

/-- What is reported of an object with options is what is reported of its entries. -/
theorem object_options (found : given members "options" = some (.object flags)) :
    (RunConfig.checkOptions .empty (Datum.ofMembers members)).violations =
      (OutputOptions.check (OutputOptions.resolveConflict (Datum.ofMembers flags))).violations.map
        (·.under (.name "options")) := by
  unfold RunConfig.checkOptions RunConfig.optionsVerdict
  rw [entry_given, found]
  simp only [Option.map_some, object_options_verdict]
  cases outcome : (OutputOptions.check (OutputOptions.resolveConflict (Datum.ofMembers flags))).outcome with
  | ok options => rw [(outcome_ok_iff.mp outcome).1, List.map_nil]
  | error violations => rw [(outcome_error_iff.mp outcome).2]

/-- What is reported of the options as a part of a configuration. -/
theorem tells_options (json : IsValue IsPrintable (.object members)) :
    Tells members ([atSetting "options"] ++ optionPlaces members)
      (RunConfig.checkOptions .empty (Datum.ofMembers members)).violations := by
  have clean (flags : Option (List (Text × Sample))) (found : given members "options" = flags.map .object) :
      Tells members [atSetting "options"] [] := by
    refine tells_clean fun requirement violates => ?_
    cases flags <;> simp [violates_setting_iff, of_string_inj, found, RunConfig.names] at violates
  cases found : given members "options" with
  | none =>
    have nowhere : optionPlaces members = [] := by rw [optionPlaces, found]
    unfold RunConfig.checkOptions RunConfig.optionsVerdict
    rw [entry_given, found, nowhere]
    exact clean none found
  | some value =>
    by_cases object : ∃ flags, value = .object flags
    · obtain ⟨flags, rfl⟩ := object
      rw [object_options found]
      exact tells_append (clean (some flags) found) (tells_option_members json found)
    · have other : ∀ flags, value ≠ .object flags := fun flags same => object ⟨flags, same⟩
      have nowhere : optionPlaces members = [] := by
        rw [optionPlaces, found]
        cases value with
        | object flags => exact absurd rfl (other flags)
        | _ => rfl
      have blamed : Tells members [atSetting "options"]
          [violationAt (.mapping .outputOptions) "options" (Datum.ofSample value)] := by
        refine tells_setting _ fun requirement => ?_
        simp [violates_setting_iff, of_string_inj, found, RunConfig.names, other]
      unfold RunConfig.checkOptions RunConfig.optionsVerdict
      rw [entry_given, found, nowhere]
      cases value with
      | object flags => exact absurd rfl (other flags)
      | _ => exact blamed

/-! ### The whole configuration -/

theorem tells_unknown {member : Text × Sample} (listed : member ∈ unknownMembers RunConfig.names members)
    (input : Datum) : Tells members [atSetting member.1] [violationAt .known member.1 input] := by
  obtain ⟨present, unknown⟩ := List.mem_filter.mp listed
  have key : member.1 ∈ members.map Prod.fst := List.mem_map_of_mem present
  have unknown : member.1 ∉ RunConfig.names := by simpa using unknown
  have others := unknown
  simp only [RunConfig.names, List.mem_cons, List.not_mem_nil, or_false, not_or] at others
  refine tells_setting input fun requirement => ?_
  rw [violates_setting_iff]
  simp only [List.mem_cons, List.not_mem_nil, or_false, others, false_and, false_or, key, unknown,
    not_false_eq_true, and_true]

/-- What is reported of a configuration tells what is violated at all of its places. -/
theorem tells_config (json : IsValue IsPrintable (.object members)) (whole : Datum) :
    Tells members (places members) (RunConfig.check .empty whole (Datum.ofMembers members)).violations := by
  rw [RunConfig.check, with_keys_violations (keys_checked (value_keys json))]
  have settings := tells_append (tells_append (tells_append (tells_append (tells_version json)
    (tells_input whole members)) (tells_class_name whole members)) (tells_output_dir members))
    (tells_options json)
  rw [List.map_eq_flatMap (f := fun member : Text × Sample =>
    violationAt .known member.1 (Datum.ofSample member.2))]
  have keys := tells_append settings (tells_all fun member listed => tells_unknown listed (Datum.ofSample member.2))
  simpa [places, RunConfig.names] using keys

/-! ### Verdicts -/

theorem is_set_given (flags : List (Text × Sample)) (name : Text) :
    isSet (Datum.ofMembers flags) name = isOn flags name := by
  rw [isSet, isOn, entry_given]
  cases given flags name with
  | none => rfl
  | some value => cases value <;> rfl

theorem written_given (documented : Documented members) :
    settled (writtenOptions .empty (Datum.ofMembers members)) = optionsGiven members := by
  unfold writtenOptions optionsGiven
  rw [entry_given]
  cases found : given members "options" with
  | none => rfl
  | some value =>
    obtain ⟨flags, rfl, -⟩ := documented.options value found
    have looked : Store.empty.look (Datum.ofSample (.object flags)) = .mapping (Datum.ofMembers flags) := rfl
    simp only [Option.map_some, looked, asWritten, settled, is_set_given]

theorem version_given (documented : Documented members) :
    (RunConfig.checkVersion (Datum.ofMembers members)).value =
      textOr "1.0" (given members "gsonclassgen_config_version") := by
  unfold RunConfig.checkVersion
  simp only [entry_given]
  cases found : given members "gsonclassgen_config_version" with
  | none => rfl
  | some value =>
    rw [documented.version value found]
    rfl

theorem text_given {concern? : Text → Option Concern} {text : Text} (whole : Datum)
    (found : given members name = some (.str text)) (unconcerned : concern? text = none) :
    (RunConfig.checkText concern? whole (Datum.ofMembers members) name).value = textOr [] (given members name) := by
  simp [RunConfig.checkText, entry_given, found, Datum.ofSample, RunConfig.checkGiven, RunConfig.textOf,
    unconcerned, textOr]

theorem output_dir_given (documented : Documented members) :
    (RunConfig.checkOutputDir (Datum.ofMembers members)).value = textOr "." (given members "output_dir") := by
  unfold RunConfig.checkOutputDir
  rw [entry_given]
  cases found : given members "output_dir" with
  | none => rfl
  | some value =>
    obtain ⟨path, rfl⟩ := documented.outputDir value found
    rfl

theorem config_given (documented : Documented members) {whole : Datum}
    (clean : (RunConfig.check .empty whole (Datum.ofMembers members)).violations = []) :
    (RunConfig.check .empty whole (Datum.ofMembers members)).value = configGiven members := by
  have parts := with_keys_clean clean
  simp only [List.append_eq_nil_iff] at parts
  obtain ⟨path, input, c, listed, shown⟩ := documented.input
  obtain ⟨name, className, legal⟩ := documented.className
  have notBlank : RunConfig.inputConcern? path = none := by
    refine if_neg fun blank => ?_
    cases (List.all_eq_true.mp blank c listed).symm.trans shown
  rw [RunConfig.check, with_keys_value, version_given documented, text_given whole input notBlank,
    text_given whole className (if_pos legal), output_dir_given documented, options_accepted parts.2,
    written_given documented]
  rfl

theorem accepted_object (json : IsValue IsPrintable (.object members)) {config : RunConfig} :
    (RunConfig.validate .empty (Datum.ofSample (.object members))).outcome = .ok config ↔
      Documented members ∧ config = configGiven members := by
  have tells := tells_config json (Datum.ofSample (.object members))
  rw [object_verdict, outcome_ok_iff]
  constructor
  · rintro ⟨clean, rfl⟩
    have documented : Documented members := by
      refine (documented_iff json).mpr fun location requirement violates => ?_
      obtain ⟨v, listed, -⟩ := (tells.exact location requirement).mpr ⟨violated_placed violates, violates⟩
      rw [clean] at listed
      cases listed
    exact ⟨documented, config_given documented clean⟩
  · rintro ⟨documented, rfl⟩
    have clean : (RunConfig.check .empty (Datum.ofSample (.object members))
        (Datum.ofMembers members)).violations = [] := by
      refine List.eq_nil_iff_forall_not_mem.mpr fun v listed => ?_
      have violated := (tells.exact v.location v.requirement).mp ⟨v, listed, rfl, rfl⟩
      exact (documented_iff json).mp documented _ _ violated.2
    exact ⟨clean, config_given documented clean⟩

/-- Exactly the objects that meet all requirements are accepted, and as the configurations that they
give. The violations that are reported of any other object are at places of it, in their fixed order
and each at a place of its own, and they are all that there are. -/
theorem accepted_iff_documented (d : Sample) (json : IsValue IsPrintable d) :
    (∀ config, (RunConfig.validate .empty (Datum.ofSample d)).outcome = .ok config ↔
      ∃ members, d = .object members ∧ Documented members ∧ config = configGiven members) ∧
    ∀ members violations, d = .object members →
      (RunConfig.validate .empty (Datum.ofSample d)).outcome = .error violations →
      (violations.map Violation.location).Sublist (places members) ∧ (places members).Nodup ∧
        ∀ location requirement, (∃ v ∈ violations, v.location = location ∧ v.requirement = requirement) ↔
          Violates members location requirement := by
  constructor
  · intro config
    cases d with
    | object members =>
      rw [accepted_object json]
      simp
    | _ =>
      constructor
      · intro accepted
        cases accepted
      · rintro ⟨_, shape, -⟩
        cases shape
  · rintro members violations rfl refused
    rw [object_verdict] at refused
    have tells := tells_config json (Datum.ofSample (.object members))
    rw [(outcome_error_iff.mp refused).2] at tells
    refine ⟨tells.order, places_apart json, fun location requirement => ?_⟩
    rw [tells.exact]
    exact ⟨And.right, fun violates => ⟨violated_placed violates, violates⟩⟩

/-- A configuration with faults everywhere: a wrong version, no input, a class name that is none,
setters that are none, an unknown option, and an unknown key in front of all. -/
def faulty : List (Text × Sample) := [
  ("colour", .null), ("class_name", .str "1"), ("gsonclassgen_config_version", .str "2"),
  ("options", .object [("verbose", .bool true), ("setters", .int 1)])]

theorem faulty_json : IsValue IsPrintable (.object faulty) := by
  have options : IsValue IsPrintable (.object [("verbose", .bool true), ("setters", .int 1)]) := by
    refine .object ?_ (by decide) ?_ <;> rw [List.forall_mem_cons, List.forall_mem_singleton]
    · exact ⟨printable_string _, printable_string _⟩
    · exact ⟨.bool true, .int 1⟩
  refine .object ?_ (by simp only [faulty, List.map_cons, List.map_nil]; decide) ?_ <;>
    simp only [faulty, List.forall_mem_cons, List.not_mem_nil, false_imp_iff, implies_true, and_true]
  · exact ⟨printable_string _, printable_string _, printable_string _, printable_string _⟩
  · exact ⟨.null, .str (printable_string _), .str (printable_string _), options⟩

/-- All faults are reported, in the order of the settings. -/
theorem faulty_refused : ∃ violations,
    (RunConfig.validate .empty (Datum.ofSample (.object faulty))).outcome = .error violations ∧
      violations.map Violation.location = [atSetting "gsonclassgen_config_version", atSetting "input",
        atSetting "class_name", atOption "setters", atOption "verbose", atSetting "colour"] ∧
      ∀ location requirement, (∃ v ∈ violations, v.location = location ∧ v.requirement = requirement) ↔
        Violates faulty location requirement := by
  obtain ⟨violations, refused, order⟩ : ∃ violations,
      (RunConfig.validate .empty (Datum.ofSample (.object faulty))).outcome = .error violations ∧
      violations.map Violation.location = [atSetting "gsonclassgen_config_version", atSetting "input",
        atSetting "class_name", atOption "setters", atOption "verbose", atSetting "colour"] := by
    refine ⟨_, rfl, ?_⟩
    decide +kernel
  obtain ⟨-, -, exact⟩ := (accepted_iff_documented (.object faulty) faulty_json).2 _ _ rfl refused
  exact ⟨violations, refused, order, exact⟩

end ClassMold.Verdicts
