import ClassMold.Proofs.Settings.Verdicts
import ClassMold.Settings.Schema

/-! The schema of configuration files and the check of configurations. What a schema admits is
told by its keywords alone, for any schema; the one that is published admits every
configuration that is accepted, and of those that it admits only such are refused that have
a blank input or a class name that is none. -/
namespace ClassMold.PublishedSchema
open Sample Values Printable Requirements Verdicts

/-! ### Schemas -/

/-- What schemas call the kinds of values. A whole number is an integer, however it is written. -/
def HasKind (kind : Text) : Sample → Prop
  | .null => kind = "null"
  | .bool _ => kind = "boolean"
  | .int _ => kind = "integer" ∨ kind = "number"
  | .float x => kind = "number" ∨ kind = "integer" ∧ ∃ n, x.equalsInt n = true
  | .str _ => kind = "string"
  | .list _ => kind = "array"
  | .object _ => kind = "object"
  | .foreign _ => False

/-- A constant of a schema and a value that are the same. Numbers are so by what they amount
to, and objects in whatever order their members stand. -/
inductive Equals : Document → Sample → Prop where
  | null : Equals .null .null
  | bool (on : Bool) : Equals (.bool on) (.bool on)
  | int (n : Int) : Equals (.int n) (.int n)
  | intFloat {n : Int} {x : Binary64} (same : x.equalsInt n = true) : Equals (.int n) (.float x)
  | floatInt {x : Binary64} {n : Int} (same : x.equalsInt n = true) : Equals (.float x) (.int n)
  | float {x y : Binary64} (same : x.sameValue y = true) : Equals (.float x) (.float y)
  | str (text : Text) : Equals (.str text) (.str text)
  | list {constants : List Document} {items : List Sample} (same : List.Forall₂ Equals constants items) :
      Equals (.list constants) (.list items)
  | object {constants : List (Text × Document)} {members : List (Text × Sample)}
      (keys : (constants.map Prod.fst).Perm (members.map Prod.fst))
      (same : ∀ key constant value, (key, constant) ∈ constants → (key, value) ∈ members →
        Equals constant value) :
      Equals (.object constants) (.object members)

/-- What stands under a key of a document. -/
def entry? (key : Text) : Document → Option Document
  | .object members => (members.find? (·.1 == key)).map (·.2)
  | _ => none

/-- The part of a document that a reference points to: it names the document itself by a number
sign, and then the keys on the way, between slashes. -/
def target? (root : Document) (reference : Text) : Option Document :=
  match reference.splitAll (.scalar '/') with
  | [] => none
  | start :: keys => if start = "#" then keys.foldlM (fun part key => entry? key part) root else none

/-- The names that a schema has a schema of its own for. -/
def listedNames (schema : Document) : List Text :=
  match entry? "properties" schema with
  | some (.object schemas) => schemas.map Prod.fst
  | _ => []

/-- The values that a schema admits, which may refer to parts of a root. What keywords say of
members they say of objects only. Titles, defaults and definitions refuse nothing. Keywords are read
in the forms that the published schema uses: one type, a list of names, a reference within the root. -/
inductive Valid (root : Document) : Document → Sample → Prop where
  | anything (value : Sample) : Valid root (.bool true) value
  | keywords {keywords : List (Text × Document)} {value : Sample}
      (type : ∀ kind, entry? "type" (.object keywords) = some (.str kind) → HasKind kind value)
      (const : ∀ constant, entry? "const" (.object keywords) = some constant → Equals constant value)
      (required : ∀ names members, entry? "required" (.object keywords) = some (.list names) →
        value = .object members → ∀ name, .str name ∈ names → name ∈ members.map Prod.fst)
      (properties : ∀ schemas members, entry? "properties" (.object keywords) = some (.object schemas) →
        value = .object members → ∀ name schema member, (name, schema) ∈ schemas →
          (name, member) ∈ members → Valid root schema member)
      (additional : ∀ schema members, entry? "additionalProperties" (.object keywords) = some schema →
        value = .object members → ∀ member ∈ members, member.1 ∉ listedNames (.object keywords) →
          Valid root schema member.2)
      (resolves : ∀ reference, entry? "$ref" (.object keywords) = some (.str reference) →
        (target? root reference).isSome = true)
      (referred : ∀ reference schema, entry? "$ref" (.object keywords) = some (.str reference) →
        target? root reference = some schema → Valid root schema value) :
      Valid root (.object keywords) value

variable {root schema : Document} {keywords schemas : List (Text × Document)} {name kind : Text}
  {value : Sample} {members flags : List (Text × Sample)}

theorem has_boolean_iff : HasKind "boolean" value ↔ ∃ on, value = .bool on := by
  cases value <;> simp [HasKind, of_string_inj]

theorem has_string_iff : HasKind "string" value ↔ ∃ text, value = .str text := by
  cases value <;> simp [HasKind, of_string_inj]

theorem has_object_iff : HasKind "object" value ↔ ∃ members, value = .object members := by
  cases value <;> simp [HasKind, of_string_inj]

/-- A text is the same as a constant only if it is that text. -/
theorem equals_text_iff {text : Text} : Equals (.str text) value ↔ value = .str text := by
  constructor
  · intro same
    cases same
    rfl
  · rintro rfl
    exact .str text

theorem nothing_valid : ¬ Valid root (.bool false) value := nofun

/-- A schema of a kind, with no keyword for members and no reference. -/
theorem plain_valid_iff (type : entry? "type" (.object keywords) = some (.str kind))
    (noRequired : entry? "required" (.object keywords) = none)
    (noProperties : entry? "properties" (.object keywords) = none)
    (noAdditional : entry? "additionalProperties" (.object keywords) = none)
    (noReference : entry? "$ref" (.object keywords) = none) :
    Valid root (.object keywords) value ↔ HasKind kind value ∧
      ∀ constant, entry? "const" (.object keywords) = some constant → Equals constant value := by
  constructor
  · intro valid
    cases valid with
    | keywords own const => exact ⟨own kind type, const⟩
  · rintro ⟨own, const⟩
    refine .keywords ?_ const ?_ ?_ ?_ ?_ ?_
    · intro other found
      cases type.symm.trans found
      exact own
    · intro names members found
      cases noRequired.symm.trans found
    · intro schemas members found
      cases noProperties.symm.trans found
    · intro schema members found
      cases noAdditional.symm.trans found
    · intro reference found
      cases noReference.symm.trans found
    · intro reference schema found
      cases noReference.symm.trans found

/-- A schema of objects with known members only. -/
theorem object_valid_iff (type : entry? "type" (.object keywords) = some (.str "object"))
    (properties : entry? "properties" (.object keywords) = some (.object schemas))
    (closed : entry? "additionalProperties" (.object keywords) = some (.bool false))
    (noConstant : entry? "const" (.object keywords) = none)
    (noReference : entry? "$ref" (.object keywords) = none) :
    Valid root (.object keywords) value ↔ ∃ members, value = .object members ∧
      (∀ names, entry? "required" (.object keywords) = some (.list names) →
        ∀ name, .str name ∈ names → name ∈ members.map Prod.fst) ∧
      ∀ member ∈ members, member.1 ∈ schemas.map Prod.fst ∧
        ∀ schema, (member.1, schema) ∈ schemas → Valid root schema member.2 := by
  have names : listedNames (.object keywords) = schemas.map Prod.fst := by rw [listedNames, properties]
  constructor
  · intro valid
    cases valid with
    | keywords own _ required each others =>
      obtain ⟨members, rfl⟩ := has_object_iff.mp (own _ type)
      refine ⟨members, rfl, fun names found => required names members found rfl, fun member listed => ⟨?_, ?_⟩⟩
      · rw [← names]
        refine Classical.byContradiction fun other => ?_
        exact nothing_valid (others _ members closed rfl member listed other)
      · exact fun schema own => each schemas members properties rfl member.1 schema member.2 own listed
  · rintro ⟨members, rfl, required, each⟩
    refine .keywords ?_ ?_ ?_ ?_ ?_ ?_ ?_
    · intro kind found
      cases type.symm.trans found
      exact rfl
    · intro constant found
      cases noConstant.symm.trans found
    · rintro names _ found ⟨⟩
      exact required names found
    · rintro _ _ found ⟨⟩ name schema member own listed
      cases properties.symm.trans found
      exact (each _ listed).2 schema own
    · rintro _ _ - ⟨⟩ member listed other
      rw [names] at other
      exact absurd (each member listed).1 other
    · intro reference found
      cases noReference.symm.trans found
    · intro reference schema found
      cases noReference.symm.trans found

/-- A schema that is nothing but a reference. -/
theorem reference_valid_iff {reference : Text} (found : target? root reference = some schema) :
    Valid root (.object [("$ref", .str reference)]) value ↔ Valid root schema value := by
  have refers : entry? "$ref" (.object [("$ref", .str reference)]) = some (.str reference) := rfl
  constructor
  · intro valid
    cases valid with
    | keywords _ _ _ _ _ _ referred => exact referred reference schema refers found
  · intro valid
    refine .keywords ?_ ?_ ?_ ?_ ?_ ?_ ?_
    · rintro kind ⟨⟩
    · rintro constant ⟨⟩
    · rintro names members ⟨⟩
    · rintro schemas members ⟨⟩
    · rintro schema members ⟨⟩
    · intro other same
      cases refers.symm.trans same
      exact Option.isSome_of_eq_some found
    · intro other part same points
      cases refers.symm.trans same
      cases found.symm.trans points
      exact valid

/-! ### The published schema -/

theorem option_valid_iff (name : Text) : Valid root (optionSchema name) value ↔ ∃ on, value = .bool on := by
  have type : entry? "type" (optionSchema name) = some (.str "boolean") := rfl
  have noConstant : entry? "const" (optionSchema name) = none := rfl
  rw [optionSchema] at type noConstant ⊢
  rw [plain_valid_iff type rfl rfl rfl rfl, noConstant, has_boolean_iff]
  simp

/-- Options that are truth values, all of them known. -/
def AreOptions (value : Sample) : Prop :=
  ∃ flags, value = .object flags ∧ ∀ flag ∈ flags, flag.1 ∈ OutputOptions.names ∧ ∃ on, flag.2 = .bool on

theorem options_valid_iff : Valid root optionsSchema value ↔ AreOptions value := by
  have noRequired : entry? "required" optionsSchema = none := rfl
  rw [optionsSchema] at noRequired ⊢
  rw [object_valid_iff rfl rfl rfl rfl rfl, noRequired]
  set names : List Text := ["boxed_primitives", "field_constructor", "final_fields", "getters", "setters"]
  have known : names.Perm OutputOptions.names := by decide
  have keys : (names.map fun name => (name, optionSchema name)).map Prod.fst = names := by
    simp [Function.comp_def]
  refine exists_congr fun flags => and_congr_right fun _ => ?_
  simp only [reduceCtorEq, false_imp_iff, implies_true, true_and]
  refine forall₂_congr fun flag _ => ?_
  rw [keys, known.mem_iff]
  refine and_congr_right fun own => ?_
  constructor
  · intro each
    exact (option_valid_iff flag.1).mp (each _ (List.mem_map_of_mem (known.mem_iff.mpr own)))
  · intro on schema listed
    obtain ⟨name, -, same⟩ := List.mem_map.mp listed
    cases same
    exact (option_valid_iff flag.1).mpr on

theorem text_valid_iff (type : entry? "type" (.object keywords) = some (.str "string"))
    (noConstant : entry? "const" (.object keywords) = none)
    (noRequired : entry? "required" (.object keywords) = none)
    (noProperties : entry? "properties" (.object keywords) = none)
    (noAdditional : entry? "additionalProperties" (.object keywords) = none)
    (noReference : entry? "$ref" (.object keywords) = none) :
    Valid root (.object keywords) value ↔ ∃ text, value = .str text := by
  rw [plain_valid_iff type noRequired noProperties noAdditional noReference, noConstant, has_string_iff]
  simp

/-- A constant tells the value, and with it the kind. -/
theorem version_valid_iff (name : Text) :
    Valid root (textSchema name [("const", .str configVersion), ("default", .str configVersion)]) value ↔
      value = .str "1.0" := by
  have constant : entry? "const" (textSchema name
      [("const", .str configVersion), ("default", .str configVersion)]) = some (.str configVersion) := rfl
  have type : entry? "type" (textSchema name
      [("const", .str configVersion), ("default", .str configVersion)]) = some (.str "string") := rfl
  rw [textSchema] at type constant ⊢
  rw [plain_valid_iff type rfl rfl rfl rfl, constant, has_string_iff]
  simp only [Option.some.injEq, forall_eq', equals_text_iff, configVersion]
  exact and_iff_right_of_imp fun same => ⟨_, same⟩

/-- What the schema of a setting admits. -/
def OfKind (name : Text) (value : Sample) : Prop :=
  if name = "options" then AreOptions value
  else if name = "gsonclassgen_config_version" then value = .str "1.0"
  else ∃ text, value = .str text

theorem setting_valid_iff (listed : (name, schema) ∈ settingSchemas) :
    Valid configSchema schema value ↔ OfKind name value := by
  simp only [settingSchemas, List.mem_cons, List.not_mem_nil, or_false, Prod.mk.injEq] at listed
  rcases listed with ⟨rfl, rfl⟩ | ⟨rfl, rfl⟩ | ⟨rfl, rfl⟩ | ⟨rfl, rfl⟩ | ⟨rfl, rfl⟩
  · rw [textSchema, text_valid_iff rfl rfl rfl rfl rfl rfl]
    simp [OfKind, of_string_inj]
  · rw [version_valid_iff]
    simp [OfKind, of_string_inj]
  · rw [textSchema, text_valid_iff rfl rfl rfl rfl rfl rfl]
    simp [OfKind, of_string_inj]
  · have found : target? configSchema "#/$defs/OutputOptions" = some optionsSchema := rfl
    rw [reference_valid_iff found, options_valid_iff]
    simp [OfKind]
  · rw [textSchema, text_valid_iff rfl rfl rfl rfl rfl rfl]
    simp [OfKind, of_string_inj]

/-- The published schema admits objects with the settings that are required and no unknown ones,
each of its kind. -/
theorem config_valid_iff : Valid configSchema configSchema value ↔ ∃ members, value = .object members ∧
    (∀ name ∈ [Text.ofString "input", "class_name"], name ∈ members.map Prod.fst) ∧
    ∀ member ∈ members, member.1 ∈ RunConfig.names ∧ OfKind member.1 member.2 := by
  have known : (settingSchemas.map Prod.fst).Perm RunConfig.names := by decide
  have type : entry? "type" configSchema = some (.str "object") := rfl
  have properties : entry? "properties" configSchema = some (.object settingSchemas) := rfl
  have closed : entry? "additionalProperties" configSchema = some (.bool false) := rfl
  have required : entry? "required" configSchema = some (.list [.str "input", .str "class_name"]) := rfl
  refine (object_valid_iff type properties closed rfl rfl).trans ?_
  refine exists_congr fun members => and_congr_right fun _ => and_congr ?_ ?_
  · have names (name : Text) : Document.str name ∈ [Document.str "input", .str "class_name"] ↔
        name ∈ [Text.ofString "input", "class_name"] := by simp
    constructor
    · intro each name listed
      exact each _ required name ((names name).mpr listed)
    · intro each _ found name listed
      cases required.symm.trans found
      exact each name ((names name).mp listed)
  · refine forall₂_congr fun member _ => ?_
    rw [known.mem_iff]
    refine and_congr_right fun own => ?_
    constructor
    · intro each
      obtain ⟨⟨name, schema⟩, listed, same⟩ := List.mem_map.mp (known.mem_iff.mpr own)
      cases same
      exact (setting_valid_iff listed).mp (each schema listed)
    · exact fun kind schema listed => (setting_valid_iff listed).mpr kind

theorem documented_of_kind (documented : Documented members) (found : given members name = some value)
    (known : name ∈ RunConfig.names) : OfKind name value := by
  simp only [RunConfig.names, List.mem_cons, List.not_mem_nil, or_false] at known
  rcases known with rfl | rfl | rfl | rfl | rfl
  · simpa [OfKind, of_string_inj] using documented.version value found
  · obtain ⟨path, same, -⟩ := documented.input
    cases same.symm.trans found
    simp [OfKind, of_string_inj]
  · obtain ⟨name, same, -⟩ := documented.className
    cases same.symm.trans found
    simp [OfKind, of_string_inj]
  · simpa [OfKind, of_string_inj] using documented.outputDir value found
  · exact documented.options value found

/-- Beyond the schema, an input that shows something and a legal class name are required. -/
theorem documented_iff_valid (json : IsValue IsPrintable (.object members)) :
    Documented members ↔ Valid configSchema configSchema (.object members) ∧
      (∃ path, given members "input" = some (.str path) ∧ ∃ c ∈ path, c.isBlank = false) ∧
      ∃ name, given members "class_name" = some (.str name) ∧ name.isIdentifier = true := by
  rw [config_valid_iff]
  constructor
  · intro documented
    refine ⟨⟨members, rfl, fun name required => ?_, fun member listed => ?_⟩, documented.input,
      documented.className⟩
    · obtain ⟨path, input, -⟩ := documented.input
      obtain ⟨text, className, -⟩ := documented.className
      rcases List.mem_pair.mp required with rfl | rfl
      · exact List.mem_map_of_mem (given_mem input)
      · exact List.mem_map_of_mem (given_mem className)
    · have known := documented.known member listed
      exact ⟨known, documented_of_kind documented (given_of_mem (value_distinct json) listed) known⟩
  · rintro ⟨⟨_, ⟨⟩, -, each⟩, input, className⟩
    have kind {name : Text} {value : Sample} (found : given members name = some value) : OfKind name value :=
      (each _ (given_mem found)).2
    exact {
      known := fun member listed => (each member listed).1
      version := fun value found => by simpa [OfKind, of_string_inj] using kind found
      input := input
      className := className
      outputDir := fun value found => by simpa [OfKind, of_string_inj] using kind found
      options := fun value found => kind found }

/-- Exactly those values are accepted as configurations that the published schema admits and that
have an input that is not blank and a class name that is legal. -/
theorem accepted_iff_valid (d : Sample) (json : IsValue IsPrintable d) :
    (∃ config, (RunConfig.validate .empty (Datum.ofSample d)).outcome = .ok config) ↔
      Valid configSchema configSchema d ∧
        (∃ path, d.member? "input" = some (.str path) ∧ ∃ c ∈ path, c.isBlank = false) ∧
        ∃ name, d.member? "class_name" = some (.str name) ∧ name.isIdentifier = true := by
  cases d with
  | object members =>
    refine Iff.trans ?_ (documented_iff_valid json)
    simp only [accepted_object json, exists_and_left, exists_eq, and_true]
  | _ =>
    constructor
    · rintro ⟨config, accepted⟩
      cases accepted
    · rintro ⟨-, ⟨path, found, -⟩, -⟩
      cases found

/-- A configuration that asks for final fields and setters, with most settings left out. -/
def desk : List (Text × Sample) := [
  ("class_name", .str "Desk"), ("input", .str "desk.json"),
  ("options", .object [("setters", .bool true), ("final_fields", .bool true)])]

theorem desk_json : IsValue IsPrintable (.object desk) := by
  have options : IsValue IsPrintable (.object [("setters", .bool true), ("final_fields", .bool true)]) := by
    refine .object ?_ (by decide) ?_ <;> rw [List.forall_mem_cons, List.forall_mem_singleton]
    · exact ⟨printable_string _, printable_string _⟩
    · exact ⟨.bool true, .bool true⟩
  refine .object ?_ (by simp only [desk, List.map_cons, List.map_nil]; decide) ?_ <;>
    simp only [desk, List.forall_mem_cons, List.not_mem_nil, false_imp_iff, implies_true, and_true]
  · exact ⟨printable_string _, printable_string _, printable_string _⟩
  · exact ⟨.str (printable_string _), .str (printable_string _), options⟩

theorem desk_valid :
    (∃ config, (RunConfig.validate .empty (Datum.ofSample (.object desk))).outcome = .ok config ∧
      config.options = { finalFields := true }) ∧ Valid configSchema configSchema (.object desk) := by
  obtain ⟨config, accepted, options⟩ : ∃ config,
      (RunConfig.validate .empty (Datum.ofSample (.object desk))).outcome = .ok config ∧
        config.options = { finalFields := true } := ⟨_, rfl, rfl⟩
  have valid := (accepted_iff_valid (.object desk) desk_json).mp ⟨config, accepted⟩
  exact ⟨⟨config, accepted, options⟩, valid.1⟩

end ClassMold.PublishedSchema
