import ClassMold.Proofs.Sample.Values
import ClassMold.Settings.RunConfig

/-! The requirements on a configuration, told by the members of the object alone: which objects meet
all of them, what the others violate, and at which places, in which order. An object meets all
requirements exactly if it violates none. -/
namespace ClassMold.Requirements
open Sample Values Printable

/-! ### Requirements -/

/-- The value that is given for a setting. -/
def given (members : List (Text × Sample)) (name : Text) : Option Sample := (Sample.object members).member? name

/-- An object that meets all requirements on a configuration. -/
structure Documented (members : List (Text × Sample)) : Prop where
  known : ∀ member ∈ members, member.1 ∈ RunConfig.names
  version : ∀ value ∈ given members "gsonclassgen_config_version", value = .str "1.0"
  input : ∃ path, given members "input" = some (.str path) ∧ ∃ c ∈ path, c.isBlank = false
  className : ∃ name, given members "class_name" = some (.str name) ∧ name.isIdentifier = true
  outputDir : ∀ value ∈ given members "output_dir", ∃ path, value = .str path
  options : ∀ value ∈ given members "options", ∃ flags, value = .object flags ∧
    ∀ flag ∈ flags, flag.1 ∈ OutputOptions.names ∧ ∃ on, flag.2 = .bool on

/-- The text that is given for a setting, or what is used where none is. -/
def textOr (default : Text) : Option Sample → Text
  | some (.str value) => value
  | _ => default

/-- Whether a flag is given and true. -/
def isOn (flags : List (Text × Sample)) (name : Text) : Bool :=
  match given flags name with
  | some (.bool on) => on
  | _ => false

/-- The options that are given. Setters are off where both they and final fields are asked for. -/
def optionsGiven (members : List (Text × Sample)) : OutputOptions :=
  match given members "options" with
  | some (.object flags) => {
      getters := isOn flags "getters"
      setters := isOn flags "setters" && !isOn flags "final_fields"
      finalFields := isOn flags "final_fields"
      fieldConstructor := isOn flags "field_constructor"
      boxedPrimitives := isOn flags "boxed_primitives" }
  | _ => {}

/-- The configuration that is given. -/
def configGiven (members : List (Text × Sample)) : RunConfig where
  version := textOr "1.0" (given members "gsonclassgen_config_version")
  input := textOr [] (given members "input")
  className := textOr [] (given members "class_name")
  outputDir := textOr "." (given members "output_dir")
  options := optionsGiven members

/-- The place of a setting. -/
def atSetting (name : Text) : List Step := [.name name]

/-- The place of an option. -/
def atOption (name : Text) : List Step := [.name "options", .name name]

/-- A requirement that the members of an object violate, and the place of the key to blame. -/
inductive Violates (members : List (Text × Sample)) : List Step → Requirement → Prop where
  | version {value : Sample} (found : given members "gsonclassgen_config_version" = some value)
      (other : value ≠ .str "1.0") : Violates members (atSetting "gsonclassgen_config_version") .version
  | missing {name : Text} (required : name ∈ [Text.ofString "input", "class_name"])
      (absent : given members name = none) : Violates members (atSetting name) .present
  | notText {name : Text} {value : Sample} (textual : name ∈ [Text.ofString "input", "class_name", "output_dir"])
      (found : given members name = some value) (other : ∀ text, value ≠ .str text) :
      Violates members (atSetting name) .text
  | blank {path : Text} (found : given members "input" = some (.str path))
      (blank : ∀ c ∈ path, c.isBlank = true) :
      Violates members (atSetting "input") (.satisfying .blankInput)
  | badName {name : Text} (found : given members "class_name" = some (.str name))
      (illegal : name.isIdentifier = false) :
      Violates members (atSetting "class_name") (.satisfying (.badClassName name))
  | noOptions {value : Sample} (found : given members "options" = some value)
      (other : ∀ flags, value ≠ .object flags) : Violates members (atSetting "options") (.mapping .outputOptions)
  | noFlag {name : Text} {flags : List (Text × Sample)} {value : Sample}
      (options : given members "options" = some (.object flags)) (known : name ∈ OutputOptions.names)
      (found : given flags name = some value) (other : ∀ on, value ≠ .bool on) :
      Violates members (atOption name) .truthValue
  | unknownOption {name : Text} {flags : List (Text × Sample)}
      (options : given members "options" = some (.object flags)) (present : name ∈ flags.map Prod.fst)
      (unknown : name ∉ OutputOptions.names) : Violates members (atOption name) .known
  | unknown {name : Text} (present : name ∈ members.map Prod.fst) (unknown : name ∉ RunConfig.names) :
      Violates members (atSetting name) .known

/-- The members of an object under keys that are none of the known ones, in order. -/
def unknownMembers (known : List Text) (members : List (Text × Sample)) : List (Text × Sample) :=
  members.filter (·.1 ∉ known)

/-- The places below the options: the options in their fixed order, and then the unknown ones as they
are given. -/
def optionPlaces (members : List (Text × Sample)) : List (List Step) :=
  match given members "options" with
  | some (.object flags) =>
    OutputOptions.names.map atOption ++
      (unknownMembers OutputOptions.names flags).map fun flag => atOption flag.1
  | _ => []

/-- All places where something can be violated: the settings in their fixed order, those below the
options right after them, and then the unknown keys as they are given. -/
def places (members : List (Text × Sample)) : List (List Step) :=
  RunConfig.names.map atSetting ++ optionPlaces members ++
    (unknownMembers RunConfig.names members).map fun member => atSetting member.1

variable {members flags : List (Text × Sample)} {name : Text} {value : Sample} {known : List Text}
  {location : List Step} {requirement : Requirement} {P : Text → Prop}

/-! ### Members -/

theorem given_cons (key : Text) (value : Sample) (rest : List (Text × Sample)) (name : Text) :
    given ((key, value) :: rest) name = if key = name then some value else given rest name := by
  by_cases same : key = name <;> simp [given, member?, same]

theorem given_mem (found : given members name = some value) : (name, value) ∈ members := by
  induction members with
  | nil => cases found
  | cons member rest ih =>
    rw [given_cons] at found
    split at found
    · rename_i same
      cases found
      exact same ▸ List.mem_cons_self
    · exact List.mem_cons_of_mem _ (ih found)

/-- Where no key stands twice, each member is found. -/
theorem given_of_mem (distinct : (members.map Prod.fst).Nodup) (listed : (name, value) ∈ members) :
    given members name = some value := by
  induction members with
  | nil => cases listed
  | cons member rest ih =>
    obtain ⟨fresh, apart⟩ := List.nodup_cons.mp distinct
    rw [given_cons]
    rcases List.mem_cons.mp listed with rfl | later
    · exact if_pos rfl
    · have other : member.1 ≠ name := fun same => fresh (same ▸ List.mem_map_of_mem (f := Prod.fst) later)
      rw [if_neg other, ih apart later]

theorem value_keys (json : IsValue P (.object members)) : ∀ member ∈ members, P member.1 := by
  cases json with
  | object keys distinct each => exact keys

theorem value_distinct (json : IsValue P (.object members)) : (members.map Prod.fst).Nodup := by
  cases json with
  | object keys distinct each => exact distinct

theorem given_value (json : IsValue P (.object members))
    (found : given members name = some value) : IsValue P value := by
  cases json with
  | object keys distinct each => exact each _ (given_mem found)

theorem given_text {text : Text} (json : IsValue P (.object members))
    (found : given members name = some (.str text)) : P text := by
  cases given_value json found with
  | str kind => exact kind

/-- A value is a text or it is none. -/
theorem text_or_other (value : Sample) : (∃ text, value = .str text) ∨ ∀ text, value ≠ .str text := by
  cases value with
  | str text => exact .inl ⟨text, rfl⟩
  | _ => exact .inr fun _ => nofun

/-! ### Places -/

theorem of_string_inj {a b : String} : Text.ofString a = Text.ofString b ↔ a = b := by
  rw [Text.ofString, Text.ofString, List.map_inj_right (fun _ _ same => CodePoint.scalar.inj same),
    String.toList_inj]

theorem setting_inj {a b : Text} : atSetting a = atSetting b ↔ a = b := by simp [atSetting]

theorem option_inj {a b : Text} : atOption a = atOption b ↔ a = b := by simp [atOption]

theorem setting_ne_option {a b : Text} : atSetting a ≠ atOption b := by simp [atSetting, atOption]

/-- What can be violated at the place of a setting or of an unknown key. -/
theorem violates_setting_iff : Violates members (atSetting name) requirement ↔
    (name = "gsonclassgen_config_version" ∧ requirement = .version ∧
      ∃ value, given members name = some value ∧ value ≠ .str "1.0") ∨
    (name ∈ [Text.ofString "input", "class_name"] ∧ requirement = .present ∧ given members name = none) ∨
    (name ∈ [Text.ofString "input", "class_name", "output_dir"] ∧ requirement = .text ∧
      ∃ value, given members name = some value ∧ ∀ text, value ≠ .str text) ∨
    (name = "input" ∧ requirement = .satisfying .blankInput ∧
      ∃ path, given members name = some (.str path) ∧ ∀ c ∈ path, c.isBlank = true) ∨
    (name = "class_name" ∧ ∃ text, requirement = .satisfying (.badClassName text) ∧
      given members name = some (.str text) ∧ text.isIdentifier = false) ∨
    (name = "options" ∧ requirement = .mapping .outputOptions ∧
      ∃ value, given members name = some value ∧ ∀ flags, value ≠ .object flags) ∨
    (requirement = .known ∧ name ∈ members.map Prod.fst ∧ name ∉ RunConfig.names) := by
  constructor
  · generalize place : atSetting name = location
    intro violates
    cases violates with
    | version found other =>
      obtain rfl := setting_inj.mp place
      exact .inl ⟨rfl, rfl, _, found, other⟩
    | missing required absent =>
      obtain rfl := setting_inj.mp place
      exact .inr (.inl ⟨required, rfl, absent⟩)
    | notText textual found other =>
      obtain rfl := setting_inj.mp place
      exact .inr (.inr (.inl ⟨textual, rfl, _, found, other⟩))
    | blank found blank =>
      obtain rfl := setting_inj.mp place
      exact .inr (.inr (.inr (.inl ⟨rfl, rfl, _, found, blank⟩)))
    | badName found illegal =>
      obtain rfl := setting_inj.mp place
      exact .inr (.inr (.inr (.inr (.inl ⟨rfl, _, rfl, found, illegal⟩))))
    | noOptions found other =>
      obtain rfl := setting_inj.mp place
      exact .inr (.inr (.inr (.inr (.inr (.inl ⟨rfl, rfl, _, found, other⟩)))))
    | noFlag => exact absurd place setting_ne_option
    | unknownOption => exact absurd place setting_ne_option
    | unknown present unknown =>
      obtain rfl := setting_inj.mp place
      exact .inr (.inr (.inr (.inr (.inr (.inr ⟨rfl, present, unknown⟩)))))
  · rintro (⟨rfl, rfl, _, found, other⟩ | ⟨required, rfl, absent⟩ | ⟨textual, rfl, _, found, other⟩ |
      ⟨rfl, rfl, _, found, blank⟩ | ⟨rfl, _, rfl, found, illegal⟩ | ⟨rfl, rfl, _, found, other⟩ |
      ⟨rfl, present, unknown⟩)
    · exact .version found other
    · exact .missing required absent
    · exact .notText textual found other
    · exact .blank found blank
    · exact .badName found illegal
    · exact .noOptions found other
    · exact .unknown present unknown

/-- What can be violated at the place of an option. -/
theorem violates_option_iff : Violates members (atOption name) requirement ↔
    ∃ flags, given members "options" = some (.object flags) ∧
      ((name ∈ OutputOptions.names ∧ requirement = .truthValue ∧
        ∃ value, given flags name = some value ∧ ∀ on, value ≠ .bool on) ∨
      (requirement = .known ∧ name ∈ flags.map Prod.fst ∧ name ∉ OutputOptions.names)) := by
  constructor
  · generalize place : atOption name = location
    intro violates
    cases violates with
    | noFlag options known found other =>
      obtain rfl := option_inj.mp place
      exact ⟨_, options, .inl ⟨known, rfl, _, found, other⟩⟩
    | unknownOption options present unknown =>
      obtain rfl := option_inj.mp place
      exact ⟨_, options, .inr ⟨rfl, present, unknown⟩⟩
    | _ => exact absurd place.symm setting_ne_option
  · rintro ⟨flags, options, ⟨known, rfl, _, found, other⟩ | ⟨rfl, present, unknown⟩⟩
    · exact .noFlag options known found other
    · exact .unknownOption options present unknown

theorem mem_unknown_iff : name ∈ (unknownMembers known members).map Prod.fst ↔
    name ∈ members.map Prod.fst ∧ name ∉ known := by
  simp only [unknownMembers, List.mem_map, List.mem_filter, decide_eq_true_eq]
  constructor
  · rintro ⟨member, ⟨present, unknown⟩, rfl⟩
    exact ⟨⟨member, present, rfl⟩, unknown⟩
  · rintro ⟨⟨member, present, rfl⟩, unknown⟩
    exact ⟨member, ⟨present, unknown⟩, rfl⟩

/-- Whatever is violated is so at one of the places. -/
theorem violated_placed (violates : Violates members location requirement) : location ∈ places members := by
  have ofSetting (name : Text) (listed : name ∈ RunConfig.names) : atSetting name ∈ places members :=
    List.mem_append_left _ (List.mem_append_left _ (List.mem_map_of_mem listed))
  have ofOption (flags name) (options : given members "options" = some (.object flags))
      (listed : name ∈ OutputOptions.names ∨ name ∈ (unknownMembers OutputOptions.names flags).map Prod.fst) :
      atOption name ∈ places members := by
    refine List.mem_append_left _ (List.mem_append_right _ ?_)
    rw [optionPlaces, options]
    rcases listed with known | unknown
    · exact List.mem_append_left _ (List.mem_map_of_mem known)
    · obtain ⟨flag, listed, rfl⟩ := List.mem_map.mp unknown
      exact List.mem_append_right _ (List.mem_map_of_mem (f := fun flag : Text × Sample => atOption flag.1) listed)
  cases violates with
  | version => exact ofSetting _ (by decide)
  | missing required => exact ofSetting _ ((by decide : ∀ name ∈ _, name ∈ RunConfig.names) _ required)
  | notText textual => exact ofSetting _ ((by decide : ∀ name ∈ _, name ∈ RunConfig.names) _ textual)
  | blank => exact ofSetting _ (by decide)
  | badName => exact ofSetting _ (by decide)
  | noOptions => exact ofSetting _ (by decide)
  | noFlag options known => exact ofOption _ _ options (.inl known)
  | unknownOption options present unknown =>
    exact ofOption _ _ options (.inr (mem_unknown_iff.mpr ⟨present, unknown⟩))
  | unknown present unknown =>
    obtain ⟨member, listed, rfl⟩ := List.mem_map.mp (mem_unknown_iff.mpr ⟨present, unknown⟩)
    exact List.mem_append_right _ (List.mem_map_of_mem (f := fun member : Text × Sample => atSetting member.1) listed)

theorem keys_apart (fixed : known.Nodup) (distinct : (members.map Prod.fst).Nodup) :
    (known ++ (unknownMembers known members).map Prod.fst).Nodup := by
  refine List.nodup_append.mpr ⟨fixed, distinct.sublist ((List.filter_sublist).map _), ?_⟩
  rintro name listed _ unknown rfl
  exact (mem_unknown_iff.mp unknown).2 listed

/-- No two places are one. -/
theorem places_apart (json : IsValue P (.object members)) : (places members).Nodup := by
  have settings := (keys_apart (by decide : RunConfig.names.Nodup) (value_distinct json)).map
    fun _ _ => setting_inj.mp
  have options : (optionPlaces members).Nodup ∧ ∀ place ∈ optionPlaces members, ∃ name, place = atOption name := by
    unfold optionPlaces
    split
    · rename_i flags found
      have names := (keys_apart (by decide : OutputOptions.names.Nodup)
        (value_distinct (given_value json found))).map fun _ _ => option_inj.mp
      rw [List.map_append, List.map_map] at names
      refine ⟨names, fun place listed => ?_⟩
      rcases List.mem_append.mp listed with known | unknown
      · obtain ⟨name, -, rfl⟩ := List.mem_map.mp known
        exact ⟨name, rfl⟩
      · obtain ⟨flag, -, rfl⟩ := List.mem_map.mp unknown
        exact ⟨flag.1, rfl⟩
    · exact ⟨List.nodup_nil, List.forall_mem_nil _⟩
  rw [List.map_append, List.map_map] at settings
  obtain ⟨fixed, others, apart⟩ := List.nodup_append.mp settings
  refine List.nodup_append.mpr ⟨List.nodup_append.mpr ⟨fixed, options.1, ?_⟩, others, ?_⟩
  · rintro _ first place second rfl
    obtain ⟨name, -, same⟩ := List.mem_map.mp first
    obtain ⟨option, rfl⟩ := options.2 _ second
    exact setting_ne_option same
  · rintro place first _ second rfl
    rcases List.mem_append.mp first with setting | option
    · exact apart place setting place second rfl
    · obtain ⟨name, rfl⟩ := options.2 _ option
      obtain ⟨member, -, same⟩ := List.mem_map.mp second
      exact setting_ne_option same

/-! ### Requirements that are met -/

theorem documented_clean (documented : Documented members) : ¬ Violates members location requirement := by
  intro violates
  cases violates with
  | version found other => exact other (documented.version _ found)
  | missing required absent =>
    rcases List.mem_pair.mp required with rfl | rfl
    · obtain ⟨path, found, -⟩ := documented.input
      cases found.symm.trans absent
    · obtain ⟨name, found, -⟩ := documented.className
      cases found.symm.trans absent
  | notText textual found other =>
    simp only [List.mem_cons, List.not_mem_nil, or_false] at textual
    rcases textual with rfl | rfl | rfl
    · obtain ⟨path, given, -⟩ := documented.input
      cases given.symm.trans found
      exact other path rfl
    · obtain ⟨name, given, -⟩ := documented.className
      cases given.symm.trans found
      exact other name rfl
    · obtain ⟨path, rfl⟩ := documented.outputDir _ found
      exact other path rfl
  | blank found blank =>
    obtain ⟨path, given, c, listed, shown⟩ := documented.input
    cases given.symm.trans found
    cases (blank c listed).symm.trans shown
  | badName found illegal =>
    obtain ⟨name, given, legal⟩ := documented.className
    cases given.symm.trans found
    cases legal.symm.trans illegal
  | noOptions found other =>
    obtain ⟨flags, rfl, -⟩ := documented.options _ found
    exact other flags rfl
  | noFlag options known found other =>
    obtain ⟨flags, same, each⟩ := documented.options _ options
    cases same
    obtain ⟨-, on, rfl⟩ := each _ (given_mem found)
    exact other on rfl
  | unknownOption options present unknown =>
    obtain ⟨flags, same, each⟩ := documented.options _ options
    cases same
    obtain ⟨flag, listed, rfl⟩ := List.mem_map.mp present
    exact unknown (each flag listed).1
  | unknown present unknown =>
    obtain ⟨member, listed, rfl⟩ := List.mem_map.mp present
    exact unknown (documented.known member listed)

/-- Where nothing is violated, the texts that have to be given are. -/
theorem clean_text (clean : ∀ location requirement, ¬ Violates members location requirement)
    (required : name ∈ [Text.ofString "input", "class_name"]) :
    ∃ text, given members name = some (.str text) := by
  cases found : given members name with
  | none => exact absurd (.missing required found) (clean _ _)
  | some value =>
    rcases text_or_other value with ⟨text, rfl⟩ | other
    · exact ⟨text, rfl⟩
    · refine absurd (.notText ?_ found other) (clean _ _)
      rcases List.mem_pair.mp required with rfl | rfl <;> decide

theorem clean_documented (json : IsValue P (.object members))
    (clean : ∀ location requirement, ¬ Violates members location requirement) : Documented members where
  known member listed :=
    Decidable.byContradiction fun unknown => clean _ _ (.unknown (List.mem_map_of_mem listed) unknown)
  version value found := Classical.byContradiction fun other => clean _ _ (.version found other)
  input := by
    obtain ⟨path, found⟩ := clean_text clean (by decide : Text.ofString "input" ∈ _)
    refine ⟨path, found, Classical.byContradiction fun none => clean _ _ (.blank found fun c listed => ?_)⟩
    exact Bool.eq_true_of_not_eq_false fun shown => none ⟨c, listed, shown⟩
  className := by
    obtain ⟨name, found⟩ := clean_text clean (by decide : Text.ofString "class_name" ∈ _)
    exact ⟨name, found, Bool.eq_true_of_not_eq_false fun illegal => clean _ _ (.badName found illegal)⟩
  outputDir value found := Classical.byContradiction fun other =>
    clean _ _ (.notText (by decide : Text.ofString "output_dir" ∈ _) found fun text same => other ⟨text, same⟩)
  options value found := by
    obtain ⟨flags, rfl⟩ : ∃ flags, value = .object flags := Classical.byContradiction fun other =>
      clean _ _ (.noOptions found fun flags same => other ⟨flags, same⟩)
    refine ⟨flags, rfl, fun flag listed => ?_⟩
    have known : flag.1 ∈ OutputOptions.names := Decidable.byContradiction fun unknown =>
      clean _ _ (.unknownOption found (List.mem_map_of_mem listed) unknown)
    have held := given_of_mem (value_distinct (given_value json found)) listed
    exact ⟨known, Classical.byContradiction fun other =>
      clean _ _ (.noFlag found known held fun on same => other ⟨on, same⟩)⟩

/-- An object meets all requirements exactly if it violates none. -/
theorem documented_iff (json : IsValue P (.object members)) :
    Documented members ↔ ∀ location requirement, ¬ Violates members location requirement :=
  ⟨fun documented _ _ => documented_clean documented, clean_documented json⟩

end ClassMold.Requirements
