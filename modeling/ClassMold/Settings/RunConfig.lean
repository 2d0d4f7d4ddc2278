import ClassMold.Identifier
import ClassMold.Notice
import ClassMold.OutputOptions
import ClassMold.Settings.Violation
import ClassMold.Text.Blank

/-!
Validation of configurations. All violations are reported, not only the first: those of the known
settings in their fixed order and then those of the unknown keys in the order of the input.
-/
namespace ClassMold

/-- A validated configuration of a run. -/
structure RunConfig where
  version : Text
  input : Text
  className : Text
  outputDir : Text
  options : OutputOptions
  deriving DecidableEq

/-- A value under validation: what is used if nothing is violated, and what is violated. -/
structure Checked (α : Type) where
  value : α
  violations : List Violation

/-- What validation reports and yields. -/
abbrev Verdict := Reported (List Violation)

/-- The value if nothing is violated. -/
def Checked.outcome {α : Type} (checked : Checked α) : Except (List Violation) α :=
  match checked.violations with
  | [] => .ok checked.value
  | violations => .error violations

/-- A single violation at a setting. -/
def violationAt (requirement : Requirement) (name : Text) (input : Datum) : Violation :=
  ⟨requirement, [.name name], input⟩

/-- A truth value that may be left out. -/
def checkFlag (entries : List (Datum × Datum)) (name : Text) : Checked Bool :=
  match Datum.entry? name entries with
  | none => ⟨false, []⟩
  | some (.bool value) => ⟨value, []⟩
  | some input => ⟨false, [violationAt .truthValue name input]⟩

/-- The violations of the keys of a mapping. A text key with a lone surrogate ends the validation of the
mapping: it is the only violation then. -/
def checkKeys (known : List Text) :
    List (Datum × Datum) → Except Violation (List Violation)
  | [] => .ok []
  | (key, input) :: rest =>
    match key with
    | .str name =>
      if name.any Utf8.isSurrogate then .error ⟨.encodable, [], key⟩
      else if known.contains name then checkKeys known rest
      else (checkKeys known rest).map (violationAt .known name input :: ·)
    | _ => (checkKeys known rest).map (⟨.textKey, [Step.ofKey key], key⟩ :: ·)

/-- Adds the violations of the keys to those of the settings. -/
def Checked.withKeys {α : Type} (checked : Checked α) (known : List Text)
    (entries : List (Datum × Datum)) : Checked α :=
  match checkKeys known entries with
  | .ok violations => { checked with violations := checked.violations ++ violations }
  | .error violation => { checked with violations := [violation] }

namespace OutputOptions

/-- The names of the options in their fixed order. -/
def names : List Text :=
  ["getters", "setters", "final_fields", "field_constructor", "boxed_primitives"]

/-- Whether both final fields and setters are asked for. -/
def conflict (entries : List (Datum × Datum)) : Bool :=
  match Datum.entry? "final_fields" entries, Datum.entry? "setters" entries with
  | some (.bool true), some (.bool true) => true
  | _, _ => false

/-- The entries after the conflict is resolved in favour of final fields. -/
def resolveConflict (entries : List (Datum × Datum)) : List (Datum × Datum) :=
  if conflict entries then Datum.setEntry (.str "setters") (.bool false) entries else entries

/-- The options that the entries of a mapping give. -/
def check (entries : List (Datum × Datum)) : Checked OutputOptions :=
  let getters := checkFlag entries "getters"
  let setters := checkFlag entries "setters"
  let finalFields := checkFlag entries "final_fields"
  let fieldConstructor := checkFlag entries "field_constructor"
  let boxedPrimitives := checkFlag entries "boxed_primitives"
  let checked : Checked OutputOptions :=
    { value := ⟨getters.value, setters.value, finalFields.value, fieldConstructor.value,
        boxedPrimitives.value⟩
      violations := getters.violations ++ setters.violations ++ finalFields.violations ++
        fieldConstructor.violations ++ boxedPrimitives.violations }
  checked.withKeys names entries

/-- Validates options. Setters give way to final fields, which is reported even if the options are
refused for another reason. -/
def validate (store : Store) (input : Datum) : Verdict OutputOptions :=
  match store.look input with
  | .mapping entries =>
    { notices := if conflict entries then [.settersDisabled] else []
      outcome := (check (resolveConflict entries)).outcome }
  | _ => ⟨[], .error [⟨.mapping .outputOptions, [], input⟩]⟩

end OutputOptions

namespace RunConfig

/-- The names of the settings in their fixed order. -/
def names : List Text :=
  ["gsonclassgen_config_version", "input", "class_name", "output_dir", "options"]

/-- The directory for the generated file where none is given. -/
def defaultOutputDir : Text := "."

/-- The version, which may be left out. -/
def checkVersion (entries : List (Datum × Datum)) : Checked Text :=
  let name : Text := "gsonclassgen_config_version"
  match Datum.entry? name entries with
  | none => ⟨configVersion, []⟩
  | some (.str value) =>
    if value.any Utf8.isSurrogate then ⟨configVersion, [violationAt .encodable name (.str value)]⟩
    else if value = configVersion then ⟨value, []⟩
    else ⟨configVersion, [violationAt .version name (.str value)]⟩
  | some input => ⟨configVersion, [violationAt .version name input]⟩

/-- The text that a value stands for. Bytes stand for the text that they encode. -/
def textOf : Datum → Except Requirement Text
  | .str value => .ok value
  | .bytes value => (Utf8.decode value).mapError fun _ => .encodable
  | _ => .error .text

/-- A text that has to satisfy a further requirement. -/
def checkGiven (concern? : Text → Option Concern) (name : Text) (input : Datum) : Checked Text :=
  match textOf input with
  | .error requirement => ⟨[], [violationAt requirement name input]⟩
  | .ok value =>
    match concern? value with
    | none => ⟨value, []⟩
    | some concern => ⟨value, [violationAt (.satisfying concern) name input]⟩

/-- A text that has to be given and to satisfy a further requirement. -/
def checkText (concern? : Text → Option Concern) (whole : Datum) (entries : List (Datum × Datum))
    (name : Text) : Checked Text :=
  match Datum.entry? name entries with
  | none => ⟨[], [violationAt .present name whole]⟩
  | some input => checkGiven concern? name input

/-- The concern about the path of an input. -/
def inputConcern? (path : Text) : Option Concern := if path.isBlank then some .blankInput else none

/-- The concern about a class name. -/
def classNameConcern? (name : Text) : Option Concern :=
  if name.isIdentifier then none else some (.badClassName name)

/-- The output directory, which may be left out. -/
def checkOutputDir (entries : List (Datum × Datum)) : Checked Text :=
  match Datum.entry? "output_dir" entries with
  | none => ⟨defaultOutputDir, []⟩
  | some input => checkGiven (fun _ => none) "output_dir" input

/-- The verdict on the options, which may be left out. -/
def optionsVerdict (store : Store) (entries : List (Datum × Datum)) : Verdict OutputOptions :=
  match Datum.entry? "options" entries with
  | none => ⟨[], .ok {}⟩
  | some input => OutputOptions.validate store input

/-- The options as part of a configuration. -/
def checkOptions (store : Store) (entries : List (Datum × Datum)) : Checked OutputOptions :=
  match (optionsVerdict store entries).outcome with
  | .ok options => ⟨options, []⟩
  | .error violations => ⟨{}, violations.map (·.under (.name "options"))⟩

/-- The configuration that the entries of a mapping give. Where one is missing, the mapping as a whole is
to blame. -/
def check (store : Store) (whole : Datum) (entries : List (Datum × Datum)) : Checked RunConfig :=
  let version := checkVersion entries
  let input := checkText inputConcern? whole entries "input"
  let className := checkText classNameConcern? whole entries "class_name"
  let outputDir := checkOutputDir entries
  let options := checkOptions store entries
  let checked : Checked RunConfig :=
    { value := ⟨version.value, input.value, className.value, outputDir.value, options.value⟩
      violations := version.violations ++ input.violations ++ className.violations ++
        outputDir.violations ++ options.violations }
  checked.withKeys names entries

/-- Validates a configuration. -/
def validate (store : Store) (input : Datum) : Verdict RunConfig :=
  match store.look input with
  | .mapping entries =>
    ⟨(optionsVerdict store entries).notices, (check store input entries).outcome⟩
  | _ => ⟨[], .error [⟨.mapping .runConfig, [], input⟩]⟩

end RunConfig
end ClassMold
