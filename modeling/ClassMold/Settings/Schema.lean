import ClassMold.Document.Basic
import ClassMold.Naming
import ClassMold.Settings.RunConfig

/-!
The JSON Schema of configuration files. It states the kinds of all settings, their defaults and which
ones are required; the members of each object are in alphabetical order.
-/
namespace ClassMold

/-- The title of a setting: the words of its name. -/
def titleOf (name : Text) : Text :=
  Text.joinWith " " ((Text.splitAll (.scalar '_') name).map capitalized)

/-- The schema of an option. -/
def optionSchema (name : Text) : Document :=
  .object [("default", .bool false), ("title", .str (titleOf name)), ("type", .str "boolean")]

/-- The schema of a text setting, with what it says beside title and kind. -/
def textSchema (name : Text) (details : List (Text × Document)) : Document :=
  let kind : List (Text × Document) := [("title", .str (titleOf name)), ("type", .str "string")]
  .object (details ++ kind)

/-- The schema of the options. -/
def optionsSchema : Document :=
  let names : List Text :=
    ["boxed_primitives", "field_constructor", "final_fields", "getters", "setters"]
  .object [
    ("additionalProperties", .bool false),
    ("properties", .object (names.map fun name => (name, optionSchema name))),
    ("title", .str Section.outputOptions.name),
    ("type", .str "object")]

/-- The schemas of the settings. -/
def settingSchemas : List (Text × Document) := [
  ("class_name", textSchema "class_name" []),
  ("gsonclassgen_config_version",
    textSchema "gsonclassgen_config_version"
      [("const", .str configVersion), ("default", .str configVersion)]),
  ("input", textSchema "input" []),
  ("options", .object [("$ref", .str "#/$defs/OutputOptions")]),
  ("output_dir", textSchema "output_dir" [("default", .str RunConfig.defaultOutputDir)])]

/-- The schema of configuration files. -/
def configSchema : Document :=
  .object [
    ("$defs", .object [(Section.outputOptions.name, optionsSchema)]),
    ("additionalProperties", .bool false),
    ("properties", .object settingSchemas),
    ("required", .list [.str "input", .str "class_name"]),
    ("title", .str "gsonclassgen run configuration"),
    ("type", .str "object")]

end ClassMold
