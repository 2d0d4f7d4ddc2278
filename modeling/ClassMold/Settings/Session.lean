import ClassMold.Settings.RunConfig

/-!
What becomes of a configuration after it is validated. Options are never changed; the settings of a run
may be set to any value, without validation.
-/
namespace ClassMold

/-- Why a value cannot be set. -/
inductive AssignError where
  /-- Options are fixed. -/
  | fixed (name : Text)
  /-- The configuration has no such setting. -/
  | unknown (name : Text)
  /-- What is under this name follows from the settings. -/
  | derived (name : Text)
  /-- A value that is reached on the way, of a kind with some name, has nothing under this name. -/
  | noAttribute (kind name : Text)
  deriving DecidableEq

/-- The wording of an error. -/
def AssignError.message : AssignError → Text
  | fixed _ => Requirement.unchanged.message
  | unknown name => "\"GeneratorConfig\" object has no field \"" ++ name ++ "\""
  | derived name => "property " ++ name.quoted ++ " of 'GeneratorConfig' object has no setter"
  | noAttribute kind name => "'" ++ kind ++ "' object has no attribute " ++ name.quoted

/-- The options of a configuration in use: as validated, or whatever they were replaced by. -/
inductive OpenOptions where
  | validated (options : OutputOptions)
  | replaced (value : Datum)

/-- A configuration in use. -/
structure OpenConfig where
  version : Datum
  input : Datum
  className : Datum
  outputDir : Datum
  options : OpenOptions

/-- A name that is set aside from the settings: setting it is allowed and changes none of them. -/
def isPrivateName (name : Text) : Bool := name.startsWith "_"

/-- What is told about a configuration but is no setting of its own. -/
def derivedNames : List Text := ["model_extra", "model_fields_set"]

namespace OutputOptions

/-- Sets an option, which is never possible. -/
def assign (options : OutputOptions) (name : Text) : Except AssignError OutputOptions :=
  if isPrivateName name then .ok options else .error (.fixed name)

/-- Sets what a path of names leads to. An option is a truth value and has nothing to set inside. -/
def assignAt (options : OutputOptions) : List Text → Except AssignError OutputOptions
  | [] => .ok options
  | [name] => options.assign name
  | name :: inner :: _ =>
    if names.contains name then .error (.noAttribute (Datum.bool true).kindName inner)
    else .error (.noAttribute Section.outputOptions.name name)

end OutputOptions

namespace OpenConfig

/-- A validated configuration that is taken into use. -/
def ofRunConfig (config : RunConfig) : OpenConfig where
  version := .str config.version
  input := .str config.input
  className := .str config.className
  outputDir := .str config.outputDir
  options := .validated config.options

/-- Sets a setting. -/
def assign (config : OpenConfig) (name : Text) (value : Datum) : Except AssignError OpenConfig :=
  if name = "gsonclassgen_config_version" then .ok { config with version := value }
  else if name = "input" then .ok { config with input := value }
  else if name = "class_name" then .ok { config with className := value }
  else if name = "output_dir" then .ok { config with outputDir := value }
  else if name = "options" then .ok { config with options := .replaced value }
  else if isPrivateName name then .ok config
  else if derivedNames.contains name then .error (.derived name)
  else .error (.unknown name)

/-- The value of a setting other than the options. -/
def value? (config : OpenConfig) (name : Text) : Option Datum :=
  if name = "gsonclassgen_config_version" then some config.version
  else if name = "input" then some config.input
  else if name = "class_name" then some config.className
  else if name = "output_dir" then some config.outputDir
  else none

/-- Sets something inside of the options. -/
def assignOptions (config : OpenConfig) (inner : Text) (rest : List Text) :
    Except AssignError OpenConfig :=
  match config.options with
  | .validated options =>
    (options.assignAt (inner :: rest)).map fun options => { config with options := .validated options }
  | .replaced value => .error (.noAttribute value.kindName inner)

/-- Sets what a path of names leads to. -/
def assignAt (config : OpenConfig) (value : Datum) : List Text → Except AssignError OpenConfig
  | [] => .ok config
  | [name] => config.assign name value
  | name :: inner :: rest =>
    if name = "options" then config.assignOptions inner rest
    else
      match config.value? name with
      | some setting => .error (.noAttribute setting.kindName inner)
      | none => .error (.noAttribute Section.runConfig.name name)

end OpenConfig
end ClassMold
