import ClassMold.Proofs.Command.Seen
import ClassMold.Proofs.Command.Wording
import ClassMold.Proofs.Files.Generated
import ClassMold.Proofs.Settings.Accepted

/-! What is seen of each command, told by what its parts yield: the class inferred from the
sample, the file that is generated, the configuration that is read. Nothing but
generating a file and writing the schema ever changes a tree. -/
namespace ClassMold.Views
open Command Seen Generated Printable Accepted

variable {α : Type} {homes : Homes} {mark : Text} {tree before after : FileTree} {a : Arguments}
  {log : Log} {input className outputDir path : Text} {options : OutputOptions}
  {reported : Reported GenerationError Path} {words rest : List Text} {command : Verb}

/-! ### Options -/

/-- The flags of a command line. -/
def flagsOf (a : Arguments) : OutputOptions where
  getters := a.has .getters
  setters := a.has .setters
  finalFields := a.has .finalFields
  fieldConstructor := a.has .fieldConstructor
  boxedPrimitives := a.has .boxedPrimitives

/-- Flags are never refused. -/
theorem output_options_ok (a : Arguments) : (outputOptions a).outcome = .ok (settled (flagsOf a)) := by
  simp only [outputOptions, flagsOf, settled]
  generalize a.has .getters = getters, a.has .setters = setters, a.has .finalFields = finalFields,
    a.has .fieldConstructor = fieldConstructor, a.has .boxedPrimitives = boxedPrimitives
  cases setters <;> cases finalFields <;> rfl

/-! ### Generating and inspecting -/

/-- What is seen where generating fails. -/
def failed (e : GenerationError) : Sight α :=
  if e.isHomeUnknown then ⟨.error (.escape .homeUnknown), []⟩ else said e.message ⟨.error (.code 1), []⟩

/-- Where generating fails, nothing comes after it. -/
theorem failed_stops (e : GenerationError) : Stops fun _ => failed e := by
  unfold failed
  by_cases unknown : e.isHomeUnknown = true
  · simp only [if_pos unknown]
    exact stops_escape _ _
  · simp only [if_neg unknown]
    exact said_stops _ (stops_code _)

theorem failed_fails (e : GenerationError) : Fails (failed e : Sight α) := stops_fails (failed_stops e) α

theorem runs_end_generation (e : GenerationError) (tree : FileTree) :
    Runs (endGeneration e : Program (StateM FileTree) α) tree (failed e) tree := by
  unfold endGeneration failed
  split
  · exact runs_throw _ tree
  · exact runs_say _ (runs_throw _ tree)

/-- What is said of a class name that is none. -/
def nameComplaint (given : Given) : Text :=
  "Invalid class name: " ++ given.quoted ++ " is not a legal Java identifier"

theorem complaint_printable (given : Given) : IsPrintable (nameComplaint given) := by
  cases given <;> simp [nameComplaint, Given.quoted]

theorem runs_class_name {given : Given} (legal : given.text.isIdentifier = true) (tree : FileTree) :
    Runs (classNameOf given) tree ⟨.ok given.text, []⟩ tree := by
  unfold classNameOf
  rw [if_pos legal]
  exact runs_pure _ tree

theorem runs_class_name_stop {given : Given} (illegal : ¬ given.text.isIdentifier = true)
    (tree : FileTree) :
    Runs (classNameOf given) tree ⟨.error (.code 2), nameComplaint given ++ "\n"⟩ tree := by
  unfold classNameOf
  rw [if_neg illegal]
  have complains : Runs (say (nameComplaint given) >>= fun _ => throw (.code 2)) tree
      (said (nameComplaint given) (⟨.error (.code 2), []⟩ : Sight Text)) tree :=
    runs_say _ (runs_throw _ tree)
  rw [said_printable (complaint_printable given), List.append_nil] at complains
  exact complains

/-- What is seen of inferring a class and of what comes next. -/
def inferredThen (outcome : Except GenerationError ClassTree) (next : ClassTree → Sight Nat) : Sight Nat :=
  match outcome with
  | .error e => failed e
  | .ok c => next c

theorem runs_inferred {next : ClassTree → Program (StateM FileTree) Nat} {sights : ClassTree → Sight Nat}
    (homes : Homes) (mark : Text) (log : Log) (input className : Text)
    (goes : ∀ c, Runs (next c) tree (sights c) tree) :
    Runs (inferOrEnd (FileTree.host homes mark) log input className >>= next) tree
      (inferredThen (inferredAt homes tree input className).outcome sights) tree := by
  have inferring : Runs (inferOrEnd (FileTree.host homes mark) log input className) tree
      (match (inferredAt homes tree input className).outcome with
      | .error e => failed e
      | .ok c => ⟨.ok c, []⟩) tree := by
    unfold inferOrEnd
    refine runs_then (runs_on_host (infer_file_run homes mark tree input className)) ?_
    refine runs_then (runs_heed log _ tree) ?_
    cases (inferredAt homes tree input className).outcome with
    | error e => exact runs_end_generation e tree
    | ok c => exact runs_pure c tree
  cases inferred : (inferredAt homes tree input className).outcome with
  | error e =>
    obtain ⟨ending, output, -, stops⟩ := failed_stops e
    simp only [inferred, stops] at inferring
    simp only [inferredThen, stops]
    exact runs_bind_stop inferring
  | ok c =>
    simp only [inferred] at inferring
    exact runs_then inferring (goes c)

/-- What is seen where a file was to be generated. -/
def told (outcome : Except GenerationError Path) : Sight Nat :=
  match outcome with
  | .error e => failed e
  | .ok target => said ("Generated " ++ target.toText) ⟨.ok 0, []⟩

theorem told_printable {target : Path} (printable : IsPrintable target.toText) :
    told (.ok target) = ⟨.ok 0, "Generated " ++ target.toText ++ "\n"⟩ := by
  have line : IsPrintable ("Generated " ++ target.toText) := by simp [printable]
  refine (said_printable line _).trans ?_
  rw [List.append_nil]

theorem runs_generate_file (log : Log)
    (ran : (generate (FileTree.host homes mark) input className outputDir options).run before =
      (reported, after)) :
    Runs (generateFile (FileTree.host homes mark) log input className outputDir options) before
      (told reported.outcome) after := by
  unfold generateFile
  refine runs_then (runs_on_host ran) ?_
  refine runs_then (runs_heed log _ after) ?_
  cases reported.outcome with
  | error e => exact runs_end_generation e after
  | ok target => exact runs_say _ (runs_pure 0 after)

/-- What is seen where the source of a class was to be printed. -/
def printed (options : OutputOptions) (c : ClassTree) : Sight Nat :=
  match Utf8.encode (c.renderFile options) with
  | .error e => failed (.output (.unencodable e))
  | .ok _ => ⟨.ok 0, c.renderFile options⟩

theorem runs_print_source (homes : Homes) (mark : Text) (log : Log) (input className : Text)
    (options : OutputOptions) (tree : FileTree) :
    Runs (printSource (FileTree.host homes mark) log input className options) tree
      (inferredThen (inferredAt homes tree input className).outcome (printed options)) tree := by
  unfold printSource
  refine runs_inferred homes mark log input className fun c => ?_
  have trying := runs_try_print (c.renderFile options) tree
  unfold printed
  cases encoded : Utf8.encode (c.renderFile options) with
  | error e =>
    rw [encoded] at trying
    exact runs_then trying (runs_end_generation _ tree)
  | ok bytes =>
    rw [encoded] at trying
    exact runs_last trying (runs_pure 0 tree)

theorem runs_generate_illegal (homes : Homes) (mark : Text)
    (illegal : ¬ (a.value 1).text.isIdentifier = true) (tree : FileTree) :
    Runs (runGenerate (FileTree.host homes mark) a) tree
      ⟨.error (.code 2), nameComplaint (a.value 1) ++ "\n"⟩ tree :=
  runs_bind_stop (runs_class_name_stop illegal tree)

theorem runs_generate_stdout (homes : Homes) (mark : Text)
    (legal : (a.value 1).text.isIdentifier = true) (asked : a.has .stdout = true) (tree : FileTree) :
    Runs (runGenerate (FileTree.host homes mark) a) tree
      (inferredThen (inferredAt homes tree (a.value 0).text (a.value 1).text).outcome
        (printed (settled (flagsOf a)))) tree := by
  unfold runGenerate
  refine runs_then (runs_class_name legal tree) ?_
  refine runs_then (runs_heed _ _ tree) ?_
  rw [output_options_ok]
  simp only [asked, ↓reduceIte]
  exact runs_print_source homes mark _ _ _ _ tree

/-- The output directory that a command line names. -/
def directoryOf (a : Arguments) : Given := (a.value? .outputDir).getD (.word RunConfig.defaultOutputDir)

theorem runs_generate_file_of (legal : (a.value 1).text.isIdentifier = true)
    (off : a.has .stdout = false) (named : directoryOf a = .word outputDir)
    (ran : (generate (FileTree.host homes mark) (a.value 0).text (a.value 1).text outputDir
      (settled (flagsOf a))).run before = (reported, after)) :
    Runs (runGenerate (FileTree.host homes mark) a) before (told reported.outcome) after := by
  unfold runGenerate
  refine runs_then (runs_class_name legal before) ?_
  refine runs_then (runs_heed _ _ before) ?_
  rw [output_options_ok]
  simp only [off, Bool.false_eq_true, ↓reduceIte]
  rw [directoryOf] at named
  rw [named]
  exact runs_generate_file _ ran

theorem runs_generate_pathless (homes : Homes) (mark : Text)
    (legal : (a.value 1).text.isIdentifier = true) (off : a.has .stdout = false)
    (named : directoryOf a = .nothing) (tree : FileTree) :
    Runs (runGenerate (FileTree.host homes mark) a) tree
      (inferredThen (inferredAt homes tree (a.value 0).text (a.value 1).text).outcome
        fun _ => ⟨.error (.escape .pathMissing), []⟩) tree := by
  unfold runGenerate
  refine runs_then (runs_class_name legal tree) ?_
  refine runs_then (runs_heed _ _ tree) ?_
  rw [output_options_ok]
  simp only [off, Bool.false_eq_true, ↓reduceIte]
  rw [directoryOf] at named
  rw [named]
  exact runs_inferred homes mark _ _ _ fun _ => runs_throw _ tree

/-- What is seen of inspecting a class. -/
def outlined (c : ClassTree) : Sight Nat :=
  if c.outline.isWritable then said (c.outline.pretty Text.asciiLiteral 0) ⟨.ok 0, []⟩
  else ⟨.error (.escape (.unreportable .longNumber)), []⟩

theorem runs_inspect_illegal (homes : Homes) (mark : Text)
    (illegal : ¬ (a.value 1).text.isIdentifier = true) (tree : FileTree) :
    Runs (runInspect (FileTree.host homes mark) a) tree
      ⟨.error (.code 2), nameComplaint (a.value 1) ++ "\n"⟩ tree :=
  runs_bind_stop (runs_class_name_stop illegal tree)

theorem runs_inspect (homes : Homes) (mark : Text) (legal : (a.value 1).text.isIdentifier = true)
    (tree : FileTree) :
    Runs (runInspect (FileTree.host homes mark) a) tree
      (inferredThen (inferredAt homes tree (a.value 0).text (a.value 1).text).outcome outlined) tree := by
  unfold runInspect
  refine runs_then (runs_class_name legal tree) ?_
  refine runs_inferred homes mark _ _ _ fun c => ?_
  unfold outlined
  split
  · exact runs_say _ (runs_pure 0 tree)
  · exact runs_throw _ tree

/-! ### Configurations -/

/-- The configuration in a file of a tree. -/
def configAt (tree : FileTree) (path : Text) : Except ConfigFileError Held :=
  match ConfigFormat.ofPath? path with
  | none => .error .unknownFormat
  | some format =>
    match tree.read path with
    | .error e => .error (.unreadable e)
    | .ok content => format.decode content

theorem read_config_run (homes : Homes) (mark : Text) (tree : FileTree) (path : Text) :
    (readConfigFile (FileTree.host homes mark) path).run tree = (configAt tree path, tree) := by
  unfold readConfigFile configAt
  cases ConfigFormat.ofPath? path with
  | none => rfl
  | some format =>
    have looked : ((FileTree.host homes mark).read path).run tree = (tree.read path, tree) := rfl
    refine (Growth.run_bind_of looked).trans ?_
    cases tree.read path <;> rfl

/-- What is seen of a report on violations. -/
def violated (store : Store) (violations : List Violation) : Sight α :=
  said "Config validation failed\n"
    (match Violation.reportAll store violations with
    | .error e => ⟨.error (.escape (.unreportable e)), []⟩
    | .ok report => said report ⟨.error (.code 1), []⟩)

theorem runs_end_validation (store : Store) (violations : List Violation) (tree : FileTree) :
    Runs (endValidation store violations : Program (StateM FileTree) α) tree
      (violated store violations) tree := by
  unfold endValidation violated
  refine runs_say _ ?_
  cases Violation.reportAll store violations with
  | error e => exact runs_throw _ tree
  | ok report => exact runs_say _ (runs_throw _ tree)

/-- Once violations are reported, nothing comes after it. -/
theorem violated_stops (store : Store) (violations : List Violation) :
    Stops fun _ => violated store violations := by
  refine said_stops _ ?_
  cases Violation.reportAll store violations with
  | error e => exact stops_escape _ _
  | ok report => exact said_stops _ (stops_code _)

/-- What is seen of loading a configuration. -/
def loaded (path : Text) (found : Except ConfigFileError Held) : Sight RunConfig :=
  match found with
  | .error e => said ("Config load failed: " ++ e.message path) ⟨.error (.code 1), []⟩
  | .ok held =>
    match (RunConfig.validate held.store held.value).outcome with
    | .error violations => violated held.store violations
    | .ok config => ⟨.ok config, []⟩

theorem runs_load_config (homes : Homes) (mark : Text) (log : Log) (path : Text) (tree : FileTree) :
    Runs (loadConfig (FileTree.host homes mark) log path) tree (loaded path (configAt tree path)) tree := by
  unfold loadConfig
  refine runs_then (runs_on_host (read_config_run homes mark tree path)) ?_
  cases configAt tree path with
  | error e => exact runs_say _ (runs_throw _ tree)
  | ok held =>
    refine runs_then (runs_heed log _ tree) ?_
    simp only [loaded]
    cases (RunConfig.validate held.store held.value).outcome with
    | error violations => exact runs_end_validation _ _ tree
    | ok config => exact runs_pure config tree

/-- Either a configuration is loaded, of which nothing is seen, or the run ends. -/
theorem loaded_cases (path : Text) (found : Except ConfigFileError Held) :
    (∃ held config, found = .ok held ∧ (RunConfig.validate held.store held.value).outcome = .ok config ∧
      loaded path found = ⟨.ok config, []⟩) ∨
    Fails (loaded path found) := by
  cases found with
  | error e => exact .inr (stops_fails (said_stops _ (stops_code _)) _)
  | ok held =>
    cases validated : (RunConfig.validate held.store held.value).outcome with
    | ok config => exact .inl ⟨held, config, rfl, validated, by simp [loaded, validated]⟩
    | error violations =>
      have fails : Fails (violated held.store violations : Sight RunConfig) := stops_fails (violated_stops _ _) _
      exact .inr (by simpa [loaded, validated] using fails)

theorem runs_config_file {held : Held} {config : RunConfig}
    (found : configAt before (a.value 0).text = .ok held)
    (accepted : (RunConfig.validate held.store held.value).outcome = .ok config)
    (ran : (generate (FileTree.host homes mark) config.input config.className config.outputDir
      config.options).run before = (reported, after)) :
    Runs (runConfig (FileTree.host homes mark) a) before (told reported.outcome) after := by
  unfold runConfig
  have loading := runs_load_config homes mark (logOf a) (a.value 0).text before
  simp only [found, loaded, accepted] at loading
  exact runs_then loading (runs_generate_file _ ran)

theorem runs_config_stop {ending : Ending} {output : Text}
    (stops : loaded (a.value 0).text (configAt tree (a.value 0).text) = ⟨.error ending, output⟩) :
    Runs (runConfig (FileTree.host homes mark) a) tree ⟨.error ending, output⟩ tree := by
  have loading := runs_load_config homes mark (logOf a) (a.value 0).text tree
  rw [stops] at loading
  exact runs_bind_stop loading

/-- What is seen of showing a configuration. -/
def shown (config : RunConfig) : Sight Nat :=
  said "Config is valid" <| said ("Input: " ++ config.input) <| said ("Class: " ++ config.className) <|
    said ("Output dir: " ++ config.outputDir) <|
      said ("Options: " ++ if enabledNames config.options = [] then Text.ofString "none"
        else Text.joinWith ", " (enabledNames config.options)) ⟨.ok 0, []⟩

theorem runs_validate_file {held : Held} {config : RunConfig}
    (found : configAt tree (a.value 0).text = .ok held)
    (accepted : (RunConfig.validate held.store held.value).outcome = .ok config) :
    Runs (runValidate (FileTree.host homes mark) a) tree (shown config) tree := by
  unfold runValidate
  have loading := runs_load_config homes mark .bare (a.value 0).text tree
  simp only [found, loaded, accepted] at loading
  refine runs_then loading ?_
  exact runs_say _ (runs_say _ (runs_say _ (runs_say _ (runs_say _ (runs_pure 0 tree)))))

theorem runs_validate_stop {ending : Ending} {output : Text}
    (stops : loaded (a.value 0).text (configAt tree (a.value 0).text) = ⟨.error ending, output⟩) :
    Runs (runValidate (FileTree.host homes mark) a) tree ⟨.error ending, output⟩ tree := by
  have loading := runs_load_config homes mark .bare (a.value 0).text tree
  rw [stops] at loading
  exact runs_bind_stop loading

/-! ### The schema -/

/-- What comes of writing a file with the directories above it. -/
def filedAt (homes : Homes) (mark : Text) (tree : FileTree) (p : Path) (bytes : Bytes) :
    Except FileError Unit × FileTree :=
  match ((FileTree.host homes mark).createDirectories p.parent).run tree with
  | (.error e, left) => (.error e, left)
  | (.ok (), left) => ((FileTree.host homes mark).write p.toText bytes).run left

theorem runs_write_text (homes : Homes) (mark : Text) (tree : FileTree) (p : Path) (bytes : Bytes) :
    Runs (writeText (FileTree.host homes mark) p bytes) tree
      (match (filedAt homes mark tree p bytes).1 with
      | .error e => ⟨.error (.escape (.file e)), []⟩
      | .ok () => ⟨.ok (), []⟩) (filedAt homes mark tree p bytes).2 := by
  unfold writeText filedAt
  cases made : ((FileTree.host homes mark).createDirectories p.parent).run tree with
  | mk outcome left =>
    refine runs_then (runs_on_host made) ?_
    cases outcome with
    | error e => exact runs_throw _ left
    | ok done =>
      cases done
      dsimp only
      generalize wrote : ((FileTree.host homes mark).write p.toText bytes).run left = result
      obtain ⟨written, after⟩ := result
      refine runs_then (runs_on_host wrote) ?_
      cases written with
      | error e => exact runs_throw _ after
      | ok _ => exact runs_pure () after

/-- The text of the schema. -/
def schemaText : Text := configSchema.pretty Text.asciiLiteral 0

theorem runs_schema_shown (homes : Homes) (mark : Text) (off : a.value? .out = none) (tree : FileTree) :
    Runs (runSchema (FileTree.host homes mark) a) tree (said schemaText ⟨.ok 0, []⟩) tree := by
  unfold runSchema
  rw [off]
  exact runs_say _ (runs_pure 0 tree)

theorem runs_schema_pathless (homes : Homes) (mark : Text) (named : a.value? .out = some .nothing)
    (tree : FileTree) :
    Runs (runSchema (FileTree.host homes mark) a) tree ⟨.error (.escape .pathMissing), []⟩ tree := by
  unfold runSchema
  rw [named]
  exact runs_throw _ tree

/-- What is seen where the schema was to be written to a file. -/
def filed (p : Path) (outcome : Except FileError Unit) : Sight Nat :=
  match outcome with
  | .error e => ⟨.error (.escape (.file e)), []⟩
  | .ok () => said ("Config schema written to " ++ p.toText) ⟨.ok 0, []⟩

theorem runs_schema_file {out : Text} {bytes : Bytes} (homes : Homes) (mark : Text)
    (named : a.value? .out = some (.word out)) (encoded : Utf8.encode (schemaText ++ "\n") = .ok bytes)
    (tree : FileTree) :
    Runs (runSchema (FileTree.host homes mark) a) tree
      (filed (.ofText out) (filedAt homes mark tree (.ofText out) bytes).1)
      (filedAt homes mark tree (.ofText out) bytes).2 := by
  have writing := runs_write_text homes mark tree (.ofText out) bytes
  unfold schemaText at encoded
  unfold runSchema
  simp only [named, encoded]
  cases outcome : (filedAt homes mark tree (.ofText out) bytes).1 with
  | error e =>
    simp only [outcome] at writing
    exact runs_bind_stop writing
  | ok _ =>
    simp only [outcome] at writing
    exact runs_then writing (runs_say _ (runs_pure 0 _))

/-! ### Command lines -/

/-- The command that a command line is for, and its words. -/
def lineOf : List Text → Verb × List Text
  | [] => (.generate, [])
  | first :: rest =>
    match named? first with
    | some command => (command, rest)
    | none => (.generate, first :: rest)

theorem program_line (host : Host (StateM FileTree)) (words : List Text) :
    program host words = (lineOf words).1.perform host (lineOf words).2 := by
  cases words with
  | nil => rfl
  | cons first rest => cases named : named? first <;> simp only [program, lineOf, named]

theorem runs_act {sight : Sight Nat} (read : command.grammar.read words = .ok a)
    (acts : Runs (command.act (FileTree.host homes mark) a) before sight after) :
    Runs (command.perform (FileTree.host homes mark) words) before sight after := by
  unfold Verb.perform
  rw [read]
  exact acts

theorem runs_help (homes : Homes) (mark : Text) (read : command.grammar.read words = .error .help)
    (tree : FileTree) :
    Runs (command.perform (FileTree.host homes mark) words) tree ⟨.ok 0, command.grammar.help⟩ tree := by
  unfold Verb.perform
  rw [read]
  exact runs_last (runs_print (Wording.help_printable command) tree) (runs_pure 0 tree)

theorem runs_wrong {error : UsageError} (homes : Homes) (mark : Text)
    (read : command.grammar.read words = .error (.wrong error)) (tree : FileTree) :
    Runs (command.perform (FileTree.host homes mark) words) tree ⟨.ok 2, []⟩ tree := by
  unfold Verb.perform
  rw [read]
  exact runs_then (runs_print_error _ tree) (runs_pure 2 tree)

/-- What is seen of a command with its words is seen of the run of its command line. -/
theorem run_of_line {sight : Sight Nat} (line : lineOf words = (command, rest))
    (runs : Runs (command.perform (FileTree.host homes mark) rest) before sight after) :
    ∃ errors, (Command.run (FileTree.host homes mark) words).run before =
      (⟨endingOf sight.result, ⟨sight.output, errors⟩⟩, after) := by
  have whole := program_line (FileTree.host homes mark) words
  rw [line] at whole
  exact run_of_runs (whole ▸ runs)

end ClassMold.Views
