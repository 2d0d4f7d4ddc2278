import ClassMold.ClassTree.Outline
import ClassMold.Command.Commands
import ClassMold.Command.Usage
import ClassMold.Document.Printer
import ClassMold.Generation
import ClassMold.Settings.ConfigFile
import ClassMold.Settings.Report
import ClassMold.Settings.RunConfig
import ClassMold.Settings.Schema
import ClassMold.Text.Escaped

/-!
Runs of the program. A run reads and writes files on a host, prints, and ends with a code. What it prints
is gathered in a transcript; a text that cannot be printed as a whole is not printed at all. A few errors
are not handled: they end the run without a code.
-/
namespace ClassMold
namespace Command

/-- What a run prints. -/
structure Transcript where
  /-- What it prints as its result. -/
  output : Text
  /-- What it prints beside that: notices and complaints. -/
  errors : Text

/-- An error that ends a run without a code. -/
inductive Escape where
  /-- A text to be printed has no bytes. -/
  | unprintable (error : Utf8.EncodeError)
  | file (error : FileError)
  | homeUnknown
  /-- A report on violations or the outline of a class cannot be written. -/
  | unreportable (error : ReportError)
  /-- Nothing is given where a path is needed. -/
  | pathMissing
  deriving DecidableEq

/-- The wording of such an error. -/
def Escape.message : Escape → Text
  | unprintable error => error.message
  | file error => error.message
  | homeUnknown => HomeError.unknown.message
  | unreportable error => error.message
  | pathMissing => "expected str, bytes or os.PathLike object, not list"

/-- How a run ends before its last step. -/
inductive Ending where
  | code (code : Nat)
  | escape (error : Escape)
  deriving DecidableEq

/-- A step of a run. -/
abbrev Program (m : Type → Type) := ExceptT Ending (StateT Transcript m)

variable {m : Type → Type} [Monad m]

/-- Prints a text if it has bytes. -/
def tryPrint (t : Text) : Program m (Except Utf8.EncodeError Unit) :=
  match Utf8.encode t with
  | .error e => return .error e
  | .ok _ => do
    modify fun transcript => { transcript with output := transcript.output ++ t }
    return .ok ()

/-- Prints a text. -/
def print (t : Text) : Program m Unit := do
  match ← tryPrint t with
  | .error e => throw (.escape (.unprintable e))
  | .ok () => return ()

/-- Prints a text as a line. -/
def say (t : Text) : Program m Unit := do
  print t
  print "\n"

/-- Prints a text beside the result. What has no bytes is escaped there. -/
def printError (t : Text) : Program m Unit :=
  modify fun transcript => { transcript with errors := transcript.errors ++ t.escapeSurrogates }

/-- A step on the host. -/
def onHost {α : Type} (step : m α) : Program m α := liftM (liftM step : StateT Transcript m α)

/-! ### Notices -/

/-- Which notices a run shows and how. -/
inductive Log where
  /-- Only warnings, as bare messages. -/
  | bare
  /-- Notices from a level on, as lines. -/
  | lines (least : Level)

/-- The line that a notice is shown as, if it is shown. -/
def Log.line? (log : Log) (notice : Notice) : Option Text :=
  match log with
  | bare => if notice.level = .warning then some notice.message else none
  | lines least => if least.rank ≤ notice.level.rank then some notice.line else none

/-- Shows notices. -/
def showNotices (log : Log) (notices : List Notice) : Program m Unit :=
  printError ((notices.filterMap log.line?).flatMap fun line => line ++ "\n")

/-- Shows what a step reports and goes on with what it yields. -/
def heed {ε α : Type} (log : Log) (reported : Reported ε α) : Program m (Except ε α) := do
  showNotices log reported.notices
  return reported.outcome

/-! ### Generating and inspecting -/

/-- Ends a run whose generation failed. -/
def endGeneration {α : Type} (e : GenerationError) : Program m α := do
  if e.isHomeUnknown then throw (.escape .homeUnknown)
  else
    say e.message
    throw (.code 1)

/-- The class name given on the command line, which has to be an identifier. -/
def classNameOf (given : Given) : Program m Text := do
  if given.text.isIdentifier then return given.text
  else
    say ("Invalid class name: " ++ given.quoted ++ " is not a legal Java identifier")
    throw (.code 2)

/-- The class tree of the sample in a file, or the end of the run. -/
def inferOrEnd (host : Host m) (log : Log) (input className : Text) : Program m ClassTree := do
  match ← heed log (← onHost (inferFile host input className)) with
  | .error e => endGeneration e
  | .ok c => return c

/-- Generates a source file and tells where it is. -/
def generateFile (host : Host m) (log : Log) (input className outputDir : Text)
    (options : OutputOptions) : Program m Nat := do
  match ← heed log (← onHost (generate host input className outputDir options)) with
  | .error e => endGeneration e
  | .ok path =>
    say ("Generated " ++ path.toText)
    return 0

/-- Prints the source for a sample. -/
def printSource (host : Host m) (log : Log) (input className : Text) (options : OutputOptions) :
    Program m Nat := do
  let c ← inferOrEnd host log input className
  match ← tryPrint (c.renderFile options) with
  | .error e => endGeneration (.output (.unencodable e))
  | .ok () => return 0

/-- The options on the command line. -/
def outputOptions (a : Arguments) : Reported (List Violation) OutputOptions :=
  let entry (name : String) (switch : Switch) : Datum × Datum :=
    (.str (Text.ofString name), .bool (a.has switch))
  OutputOptions.validate .empty (.mapping [
    entry "getters" .getters,
    entry "setters" .setters,
    entry "final_fields" .finalFields,
    entry "field_constructor" .fieldConstructor,
    entry "boxed_primitives" .boxedPrimitives])

/-- The log that a command line asks for. -/
def logOf (a : Arguments) : Log := .lines (if a.has .verbose then .debug else .warning)

/-- Ends a run whose configuration violates requirements. -/
def endValidation {α : Type} (store : Store) (violations : List Violation) : Program m α := do
  say "Config validation failed\n"
  match Violation.reportAll store violations with
  | .error e => throw (.escape (.unreportable e))
  | .ok report =>
    say report
    throw (.code 1)

/-- Generates a class from arguments. -/
def runGenerate (host : Host m) (a : Arguments) : Program m Nat := do
  let input := (a.value 0).text
  let className ← classNameOf (a.value 1)
  match ← heed (logOf a) (outputOptions a) with
  | .error violations => endValidation .empty violations
  | .ok options =>
    if a.has .stdout then printSource host (logOf a) input className options
    else
      match (a.value? .outputDir).getD (.word RunConfig.defaultOutputDir) with
      | .word outputDir => generateFile host (logOf a) input className outputDir options
      | .nothing =>
        let _ ← inferOrEnd host (logOf a) input className
        throw (.escape .pathMissing)

/-- Prints what is inferred from a sample. -/
def runInspect (host : Host m) (a : Arguments) : Program m Nat := do
  let className ← classNameOf (a.value 1)
  let c ← inferOrEnd host (logOf a) (a.value 0).text className
  if c.outline.isWritable then
    say (c.outline.pretty Text.asciiLiteral 0)
    return 0
  else throw (.escape (.unreportable .longNumber))

/-! ### Configurations -/

/-- The configuration in a file. -/
def loadConfig (host : Host m) (log : Log) (path : Text) : Program m RunConfig := do
  match ← onHost (readConfigFile host path) with
  | .error e =>
    say ("Config load failed: " ++ e.message path)
    throw (.code 1)
  | .ok held =>
    match ← heed log (RunConfig.validate held.store held.value) with
    | .error violations => endValidation held.store violations
    | .ok config => return config

/-- Generates a class as a configuration says. -/
def runConfig (host : Host m) (a : Arguments) : Program m Nat := do
  let config ← loadConfig host (logOf a) (a.value 0).text
  generateFile host (logOf a) config.input config.className config.outputDir config.options

/-- The names of the options that are set. -/
def enabledNames (o : OutputOptions) : List Text :=
  ((OutputOptions.names.zip
    [o.getters, o.setters, o.finalFields, o.fieldConstructor, o.boxedPrimitives]).filter (·.2)).map
      (·.1)

/-- Shows what a configuration says. -/
def runValidate (host : Host m) (a : Arguments) : Program m Nat := do
  let config ← loadConfig host .bare (a.value 0).text
  say "Config is valid"
  say ("Input: " ++ config.input)
  say ("Class: " ++ config.className)
  say ("Output dir: " ++ config.outputDir)
  let enabled := enabledNames config.options
  say ("Options: " ++ if enabled = [] then Text.ofString "none" else Text.joinWith ", " enabled)
  return 0

/-- Writes a text to a file, with the directories above it. -/
def writeText (host : Host m) (path : Path) (bytes : Bytes) : Program m Unit := do
  match ← onHost (host.createDirectories path.parent) with
  | .error e => throw (.escape (.file e))
  | .ok () =>
    match ← onHost (host.write path.toText bytes) with
    | .error e => throw (.escape (.file e))
    | .ok () => return ()

/-- Prints the schema of configurations or writes it to a file. -/
def runSchema (host : Host m) (a : Arguments) : Program m Nat := do
  let rendered := configSchema.pretty Text.asciiLiteral 0
  match a.value? .out with
  | none =>
    say rendered
    return 0
  | some .nothing => throw (.escape .pathMissing)
  | some (.word out) =>
    let path := Path.ofText out
    match Utf8.encode (rendered ++ "\n") with
    | .error e => throw (.escape (.unprintable e))
    | .ok bytes =>
      writeText host path bytes
      say ("Config schema written to " ++ path.toText)
      return 0

/-! ### The program -/

/-- What a command does with its arguments. -/
def Verb.act (host : Host m) : Verb → Arguments → Program m Nat
  | .generate => runGenerate host
  | .run => runConfig host
  | .validate => runValidate host
  | .inspect => runInspect host
  | .schema => runSchema host

/-- Runs a command with its words. -/
def Verb.perform (host : Host m) (command : Verb) (words : List Text) : Program m Nat := do
  match command.grammar.read words with
  | .ok a => command.act host a
  | .error .help =>
    print command.grammar.help
    return 0
  | .error (.wrong error) =>
    printError (command.grammar.complaint error)
    return 2

/-- The program as steps: the first word may name a command. -/
def program (host : Host m) (words : List Text) : Program m Nat :=
  match words with
  | [] => Verb.perform host .generate []
  | first :: rest =>
    match named? first with
    | some command => command.perform host rest
    | none => Verb.perform host .generate (first :: rest)

/-- What a run prints and how it ends. -/
structure Run where
  ending : Ending
  transcript : Transcript

/-- Runs the program with the words of a command line. -/
def run (host : Host m) (words : List Text) : m Run := do
  let (result, transcript) ← ((program host words).run).run ⟨[], []⟩
  match result with
  | .ok code => return ⟨.code code, transcript⟩
  | .error ending => return ⟨ending, transcript⟩

end Command
end ClassMold
