import ClassMold.Command.Grammar

/-!
The commands of the program and what each of them takes. Without the name of a command the program
generates a class.
-/
namespace ClassMold
namespace Command

/-- What the program can be told to do. -/
inductive Verb where
  | generate
  | run
  | validate
  | inspect
  | schema
  deriving DecidableEq

/-- The command that a first word names. -/
def named? (word : Text) : Option Verb :=
  if word = "run" then some .run
  else if word = "validate" then some .validate
  else if word = "inspect" then some .inspect
  else if word = "schema" then some .schema
  else none

/-- The option that asks for help. -/
def helpOption : OptionSpec := ⟨.help, some 'h', "help", none, "show this help message and exit"⟩

/-- The option that shows all notices. -/
def verboseOption : OptionSpec := ⟨.verbose, some 'v', "verbose", none, "Enable debug logging"⟩

/-- An option without a letter and without a value. -/
def flag (switch : Switch) (name help : Text) : OptionSpec := ⟨switch, none, name, none, help⟩

/-- The arguments that name a sample and a class. -/
def sampleArguments : List ArgumentSpec := [
  ⟨"input", "Path to the sample JSON document"⟩,
  ⟨"class_name", "Name of the generated root class"⟩]

/-- The argument that names a configuration. -/
def configArgument : ArgumentSpec := ⟨"path", "Path to config file (.json/.yaml)"⟩

/-- What a command takes. -/
def Verb.grammar : Verb → Grammar
  | .generate => {
      description := "Generate a Gson annotated Java class from sample JSON"
      arguments := sampleArguments
      options := [
        helpOption,
        verboseOption,
        ⟨.outputDir, some 'o', "output-dir", some "OUTPUT_DIR",
          "Directory for the generated .java file"⟩,
        flag .stdout "stdout" "Print the source instead of writing a file",
        flag .getters "getters" "Generate getters",
        flag .setters "setters" "Generate setters (ignored with --final-fields)",
        flag .finalFields "final-fields" "Declare fields final",
        flag .fieldConstructor "field-constructor" "Generate an all-arguments constructor",
        flag .boxedPrimitives "boxed-primitives"
          "Use Boolean/Integer/Float instead of primitive types"] }
  | .run => {
      description := "Generate a class from a config file"
      arguments := [configArgument]
      options := [helpOption, verboseOption] }
  | .validate => {
      description := "Validate a gsonclassgen config"
      arguments := [configArgument]
      options := [helpOption] }
  | .inspect => {
      description := "Print the inferred class model as JSON"
      arguments := sampleArguments
      options := [helpOption, verboseOption] }
  | .schema => {
      description := "Print the JSON Schema of gsonclassgen config files"
      arguments := []
      options := [
        helpOption,
        ⟨.out, none, "out", some "OUT", "Write the schema to this file instead of stdout"⟩] }

end Command
end ClassMold
