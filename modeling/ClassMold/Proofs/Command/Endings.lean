import ClassMold.Proofs.Command.Views
import ClassMold.Proofs.Sample.JsonKinds
import ClassMold.Proofs.Settings.Reports

/-! Which runs end without a code. Most errors are told and end a run with a code; the ones
that are not are a path in the home of an unknown user, a line that cannot be printed, a report
on a configuration or an outline that cannot be written, a missing path, and any trouble with the
file of the schema. These are all: where none of them occurs, a run ends with the code 0, 1 or 2. -/
namespace ClassMold.Endings
open ClassMold.Path Growth Command Seen Generated Views Printable Accepted JsonKinds Reports Wording

variable {homes : Homes} {mark path input className outputDir : Text} {tree before after : FileTree}
  {options : OutputOptions} {a : Arguments} {command : Verb} {words rest : List Text} {c : ClassTree}

/-! ### Unknown homes -/

/-- A path starts with a tilde and the name of a user that there is not. -/
def Homeless (homes : Homes) (path : Text) : Prop :=
  ∃ user rest, (ofText path).start = .here ∧ (ofText path).steps = (.scalar '~' :: user) :: rest ∧
    user ≠ [] ∧ pathError? user = none ∧ ∀ other ∈ homes.others, other.1 ≠ user

theorem find_unknown_iff {user : Text} : homes.find user = .error .unknown ↔
    user ≠ [] ∧ pathError? user = none ∧ ∀ other ∈ homes.others, other.1 ≠ user := by
  unfold Homes.find
  by_cases own : user = []
  · simp [own]
  · cases bad : pathError? user with
    | some error => simp [own]
    | none =>
      cases found : homes.others.find? (·.1 == user) with
      | none => simpa [own] using found
      | some other =>
        have held := List.find?_some found
        have listed := List.mem_of_find?_eq_some found
        simp only [own, ↓reduceIte, reduceCtorEq, ne_eq, not_false_eq_true, true_and, false_iff]
        exact fun none => none other listed (by simpa using held)

theorem homeless_iff : (ofText path).expandHome homes = .error .unknown ↔ Homeless homes path := by
  unfold expandHome Homeless
  split
  · rename_i user rest start steps
    rw [start, steps]
    have found : (∃ name others, PathStart.here = .here ∧
        (.scalar '~' :: user) :: rest = (.scalar '~' :: name) :: others ∧ name ≠ [] ∧
          pathError? name = none ∧ ∀ other ∈ homes.others, other.1 ≠ name) ↔
        homes.find user = .error .unknown := by
      rw [find_unknown_iff]
      constructor
      · rintro ⟨name, others, -, same, unknown⟩
        cases same
        exact unknown
      · exact fun unknown => ⟨user, rest, rfl, rfl, unknown⟩
    rw [found]
    cases homes.find user <;> simp [Except.map]
  · rename_i other
    simp only [reduceCtorEq, false_iff]
    rintro ⟨user, rest, start, steps, -⟩
    exact other user rest start steps

/-! ### Reading a sample -/

theorem of_bytes_homed {content : Bytes} {e : HomeError} : Sample.ofBytes content ≠ .error (.homeless e) := by
  simp [of_bytes_error_iff]

theorem sample_homeless_iff (tree : FileTree) :
    sampleAt homes tree path = .error (.homeless .unknown) ↔ Homeless homes path := by
  rw [← homeless_iff]
  unfold sampleAt
  cases (ofText path).expandHome homes with
  | error e => simp
  | ok p =>
    dsimp only
    cases tree.read p.toText with
    | error e => simp
    | ok content => simp [of_bytes_homed]

theorem sample_at_json {sample : Sample} (read : sampleAt homes tree path = .ok sample) :
    IsJson sample := by
  obtain ⟨_, content, -, -, held⟩ := sample_ok_iff.mp read
  obtain ⟨t, -, parsed⟩ := of_bytes_ok_iff.mp held
  exact sample_json parsed

/-- Where nothing can be inferred, the home of the sample is to blame or there is something to say. -/
theorem inferred_error {e : GenerationError} (legal : className.isIdentifier = true)
    (stops : (inferredAt homes tree input className).outcome = .error e) :
    (e.isHomeUnknown = true ↔ Homeless homes input) ∧ IsPrintable e.message := by
  rw [← sample_homeless_iff tree]
  rcases inferred_error_iff.mp stops with ⟨fault, sampled, rfl⟩ | ⟨sample, fault, sampled, ran, rfl⟩
  · rw [sampled]
    exact ⟨by simp [GenerationError.isHomeUnknown], sample_file_error_printable fault⟩
  · rw [sampled]
    refine ⟨by simp [GenerationError.isHomeUnknown], ?_⟩
    have name := identifier_printable legal
    rcases json_refusal (sample_at_json sampled) ran with rfl | ⟨kind, listed, rfl⟩
    · simp [GenerationError.message, InferenceError.message, name]
    · have plain : ∀ kind ∈ plainKinds, IsPrintable kind := by decide
      simp [GenerationError.message, InferenceError.message, name, plain kind listed]

theorem homeless_not_inferred (inferred : (inferredAt homes tree input className).outcome = .ok c) :
    ¬ Homeless homes input := by
  rw [← sample_homeless_iff tree]
  obtain ⟨sample, read, -⟩ := inferred_ok_iff.mp inferred
  simp [read]

/-! ### Writing a source -/

theorem replace_file_homed {staging target content : Text} {e : HomeError}
    {outcome : Except SourceFileError Unit}
    (ran : (replaceFile (FileTree.host homes mark) staging target content).run before = (outcome, after)) :
    outcome ≠ .error (.homeless e) := by
  rintro rfl
  unfold replaceFile at ran
  obtain ⟨opened, middle, -, ran⟩ := run_bind_iff.mp ran
  cases opened with
  | error _ => cases ran
  | ok _ =>
    dsimp only at ran
    split at ran
    · obtain ⟨_, _, -, ran⟩ := run_bind_iff.mp ran
      cases ran
    · obtain ⟨wrote, middle, -, ran⟩ := run_bind_iff.mp ran
      cases wrote with
      | error _ =>
        obtain ⟨_, _, -, ran⟩ := run_bind_iff.mp ran
        cases ran
      | ok _ =>
        obtain ⟨moved, middle, -, ran⟩ := run_bind_iff.mp ran
        cases moved with
        | error _ =>
          obtain ⟨_, _, -, ran⟩ := run_bind_iff.mp ran
          cases ran
        | ok _ => cases ran

theorem source_path_unknown_iff (className : Text) :
    sourcePath homes outputDir className = .error .unknown ↔ Homeless homes outputDir := by
  rw [← homeless_iff]
  unfold sourcePath
  cases (ofText outputDir).expandHome homes <;> simp [Except.map]

theorem write_source_homeless_iff {written : Reported SourceFileError Path}
    (ran : (writeSource (FileTree.host homes mark) c outputDir options).run before = (written, after)) :
    written.outcome = .error (.homeless .unknown) ↔ Homeless homes outputDir := by
  rw [← source_path_unknown_iff c.name]
  unfold writeSource at ran
  rw [host_homes] at ran
  cases found : sourcePath homes outputDir c.name with
  | error e =>
    rw [found] at ran
    cases ran
    simp [Reported.quietly]
  | ok target =>
    rw [found] at ran
    obtain ⟨made, middle, -, ran⟩ := run_bind_iff.mp ran
    cases made with
    | error _ =>
      cases ran
      simp [Reported.quietly]
    | ok _ =>
      obtain ⟨replaced, later, replacing, ran⟩ := run_bind_iff.mp ran
      cases replaced with
      | error fault =>
        cases ran
        have homed := replace_file_homed (e := .unknown) replacing
        simpa [Reported.quietly] using homed
      | ok _ =>
        cases ran
        simp

/-- Where generating fails, a home is to blame or there is something to say. -/
theorem generate_error {reported : Reported GenerationError Path} {e : GenerationError}
    (legal : className.isIdentifier = true)
    (ran : (generate (FileTree.host homes mark) input className outputDir options).run before =
      (reported, after)) (failed : reported.outcome = .error e) :
    (e.isHomeUnknown = true ↔ Homeless homes input ∨
      (∃ c, (inferredAt homes before input className).outcome = .ok c) ∧ Homeless homes outputDir) ∧
    IsPrintable e.message := by
  cases inferred : (inferredAt homes before input className).outcome with
  | error fault =>
    obtain ⟨notices, stopped⟩ := generate_of_error inferred
    cases stopped.symm.trans ran
    cases failed
    simpa using inferred_error legal inferred
  | ok c =>
    cases writing : (writeSource (FileTree.host homes mark) c outputDir options).run before with
    | mk written left =>
      obtain ⟨notices, went⟩ := generate_of_class inferred writing
      cases went.symm.trans ran
      obtain ⟨fault, wrote, rfl⟩ := map_error_error_iff.mp failed
      refine ⟨?_, source_file_error_printable fault⟩
      rw [← write_source_homeless_iff writing, wrote]
      simp [GenerationError.isHomeUnknown, homeless_not_inferred inferred]

theorem generated_homed {reported : Reported GenerationError Path} {target : Path}
    (ran : (generate (FileTree.host homes mark) input className outputDir options).run before =
      (reported, after)) (wrote : reported.outcome = .ok target) :
    ¬ Homeless homes input ∧ ¬ Homeless homes outputDir := by
  cases inferred : (inferredAt homes before input className).outcome with
  | error fault =>
    obtain ⟨notices, stopped⟩ := generate_of_error inferred
    cases stopped.symm.trans ran
    cases wrote
  | ok c =>
    cases writing : (writeSource (FileTree.host homes mark) c outputDir options).run before with
    | mk written left =>
      obtain ⟨notices, went⟩ := generate_of_class inferred writing
      cases went.symm.trans ran
      refine ⟨homeless_not_inferred inferred, fun homeless => ?_⟩
      have failed := (write_source_homeless_iff writing).mpr homeless
      simp [failed] at wrote

/-! ### What ends a run without a code -/

/-- Generating a file ends a run without a code: a home is unknown, or the path of the file
that is there now cannot be printed. -/
inductive JobEscapes (homes : Homes) (mark : Text) (tree : FileTree)
    (input className outputDir : Text) (options : OutputOptions) : Prop where
  | input (homeless : Homeless homes input)
  | output {c : ClassTree} (inferred : (inferredAt homes tree input className).outcome = .ok c)
      (homeless : Homeless homes outputDir)
  | target {notices : List Notice} {target : Path} {after : FileTree}
      (generated : (generate (FileTree.host homes mark) input className outputDir options).run tree =
        (⟨notices, .ok target⟩, after))
      (unprintable : ¬ IsPrintable target.toText)

/-- Loading a configuration ends a run without a code: markup is malformed in a file whose path
cannot be printed, or a report on violations cannot be written. -/
inductive LoadEscapes (tree : FileTree) (path : Text) : Prop where
  | malformed {e : ConfigFileError} (found : configAt tree path = .error e)
      (shows : isMalformedMarkup e = true) (unprintable : ¬ IsPrintable path)
  | refused {held : Held} {violations : List Violation} {e : ReportError}
      (found : configAt tree path = .ok held)
      (violated : (RunConfig.validate held.store held.value).outcome = .error violations)
      (unreportable : Violation.reportAll held.store violations = .error e)

/-- Writing the schema ends a run without a code: the file cannot be written, or its path
cannot be printed. -/
inductive SchemaEscapes (homes : Homes) (mark : Text) (tree : FileTree) (out : Text) : Prop where
  | file {bytes : Bytes} {e : FileError} (encoded : Utf8.encode (schemaText ++ "\n") = .ok bytes)
      (refused : (filedAt homes mark tree (.ofText out) bytes).1 = .error e)
  | path (unprintable : ¬ IsPrintable (ofText out).toText)

/-- The arguments of a command end a run without a code. -/
inductive Escapes (homes : Homes) (mark : Text) (tree : FileTree) : Verb → Arguments → Prop where
  | sample {command : Verb} {a : Arguments} (reads : command = .generate ∨ command = .inspect)
      (legal : (a.value 1).text.isIdentifier = true) (homeless : Homeless homes (a.value 0).text) :
      Escapes homes mark tree command a
  | flags {a : Arguments} {outputDir : Text} (legal : (a.value 1).text.isIdentifier = true)
      (off : a.has .stdout = false) (named : directoryOf a = .word outputDir)
      (job : JobEscapes homes mark tree (a.value 0).text (a.value 1).text outputDir (settled (flagsOf a))) :
      Escapes homes mark tree .generate a
  | pathless {a : Arguments} {c : ClassTree} (legal : (a.value 1).text.isIdentifier = true)
      (off : a.has .stdout = false) (named : directoryOf a = .nothing)
      (inferred : (inferredAt homes tree (a.value 0).text (a.value 1).text).outcome = .ok c) :
      Escapes homes mark tree .generate a
  | outline {a : Arguments} {c : ClassTree} (legal : (a.value 1).text.isIdentifier = true)
      (inferred : (inferredAt homes tree (a.value 0).text (a.value 1).text).outcome = .ok c)
      (long : c.outline.isWritable = false) : Escapes homes mark tree .inspect a
  | load {command : Verb} {a : Arguments} (loads : command = .run ∨ command = .validate)
      (load : LoadEscapes tree (a.value 0).text) : Escapes homes mark tree command a
  | config {a : Arguments} {held : Held} {config : RunConfig}
      (found : configAt tree (a.value 0).text = .ok held)
      (accepted : (RunConfig.validate held.store held.value).outcome = .ok config)
      (job : JobEscapes homes mark tree config.input config.className config.outputDir config.options) :
      Escapes homes mark tree .run a
  | shown {a : Arguments} {held : Held} {config : RunConfig}
      (found : configAt tree (a.value 0).text = .ok held)
      (accepted : (RunConfig.validate held.store held.value).outcome = .ok config)
      (unprintable : ¬ IsPrintable config.input ∨ ¬ IsPrintable config.outputDir) :
      Escapes homes mark tree .validate a
  | schemaless {a : Arguments} (named : a.value? .out = some .nothing) : Escapes homes mark tree .schema a
  | schema {a : Arguments} {out : Text} (named : a.value? .out = some (.word out))
      (schema : SchemaEscapes homes mark tree out) : Escapes homes mark tree .schema a

/-! ### Sights -/

/-- A run ends without a code if something is the case, and else with the code 0, 1 or 2. -/
structure EscapesIf (cause : Prop) (sight : Sight Nat) : Prop where
  escapes : cause → ∃ e, endingOf sight.result = .escape e
  ends : ¬ cause → ∃ code ≤ 2, endingOf sight.result = .code code

variable {cause other : Prop} {sight : Sight Nat} {t : Text}

theorem EscapesIf.congr (known : EscapesIf cause sight) (same : cause ↔ other) : EscapesIf other sight :=
  ⟨fun holds => known.escapes (same.mpr holds), fun never => known.ends fun holds => never (same.mp holds)⟩

theorem escapes_never {code : Nat} (small : code ≤ 2) (ended : endingOf sight.result = .code code) :
    EscapesIf False sight := ⟨False.elim, fun _ => ⟨code, small, ended⟩⟩

theorem escapes_always {e : Escape} (ended : endingOf sight.result = .escape e) : EscapesIf True sight :=
  ⟨fun _ => ⟨e, ended⟩, fun never => absurd trivial never⟩

theorem escapes_said (next : EscapesIf cause sight) : EscapesIf (¬ IsPrintable t ∨ cause) (said t sight) := by
  by_cases printable : IsPrintable t
  · rw [said_printable printable]
    have goesOn : EscapesIf cause ⟨sight.result, t ++ "\n" ++ sight.output⟩ := ⟨next.escapes, next.ends⟩
    exact goesOn.congr (by simp [printable])
  · obtain ⟨e, ends⟩ := said_unprintable printable sight
    rw [ends]
    exact (escapes_always rfl).congr (by simp [printable])

theorem escapes_line (printable : IsPrintable t) (next : EscapesIf cause sight) :
    EscapesIf cause (said t sight) := (escapes_said next).congr (by simp [printable])

theorem escapes_failed {e : GenerationError} (printable : IsPrintable e.message) :
    EscapesIf (e.isHomeUnknown = true) (failed e) := by
  unfold failed
  by_cases unknown : e.isHomeUnknown = true
  · rw [if_pos unknown]
    exact (escapes_always rfl).congr (by simp [unknown])
  · rw [if_neg unknown]
    exact (escapes_line printable (escapes_never (by decide) rfl)).congr (by simp [unknown])

theorem escapes_inferred {next : ClassTree → Sight Nat} {causes : ClassTree → Prop}
    (legal : className.isIdentifier = true) (goes : ∀ c, EscapesIf (causes c) (next c)) :
    EscapesIf
      (Homeless homes input ∨ ∃ c, (inferredAt homes tree input className).outcome = .ok c ∧ causes c)
      (inferredThen (inferredAt homes tree input className).outcome next) := by
  cases inferred : (inferredAt homes tree input className).outcome with
  | error e =>
    obtain ⟨unknown, printable⟩ := inferred_error legal inferred
    exact (escapes_failed printable).congr (by simp [unknown])
  | ok c => exact (goes c).congr (by simp [homeless_not_inferred inferred])

theorem escapes_printed (options : OutputOptions) (c : ClassTree) : EscapesIf False (printed options c) := by
  unfold printed
  cases Utf8.encode (c.renderFile options) with
  | error e =>
    have printable : IsPrintable (GenerationError.output (.unencodable e)).message :=
      source_file_error_printable (.unencodable e)
    exact (escapes_failed printable).congr (by simp [GenerationError.isHomeUnknown])
  | ok bytes => exact escapes_never (by decide) rfl

theorem escapes_outlined (c : ClassTree) : EscapesIf (c.outline.isWritable = false) (outlined c) := by
  unfold outlined
  by_cases writable : c.outline.isWritable = true
  · rw [if_pos writable]
    refine (escapes_line (ascii_document_printable _ _) (escapes_never (by decide) rfl)).congr ?_
    simp [writable]
  · rw [if_neg writable]
    exact (escapes_always rfl).congr (by simpa using writable)

/-- A generation that is told of. -/
theorem escapes_told {reported : Reported GenerationError Path} (legal : className.isIdentifier = true)
    (ran : (generate (FileTree.host homes mark) input className outputDir options).run before =
      (reported, after)) :
    EscapesIf (JobEscapes homes mark before input className outputDir options) (told reported.outcome) := by
  cases outcome : reported.outcome with
  | error e =>
    obtain ⟨unknown, printable⟩ := generate_error legal ran outcome
    refine (escapes_failed printable).congr (unknown.trans ⟨?_, ?_⟩)
    · rintro (homeless | ⟨⟨c, inferred⟩, homeless⟩)
      · exact .input homeless
      · exact .output inferred homeless
    · -- a path is not told of where generating failed
      rintro (homeless | ⟨inferred, homeless⟩ | ⟨again, -⟩)
      · exact .inl homeless
      · exact .inr ⟨⟨_, inferred⟩, homeless⟩
      · cases ran.symm.trans again
        cases outcome
  | ok target =>
    obtain ⟨homed, homedToo⟩ := generated_homed ran outcome
    refine (escapes_said (escapes_never (by decide) rfl)).congr ⟨?_, ?_⟩
    · rintro (unprintable | never)
      · have same : reported = ⟨reported.notices, .ok target⟩ := by rw [← outcome]
        exact .target (ran.trans (by rw [← same])) (by simpa using unprintable)
      · cases never
    · rintro (homeless | ⟨-, homeless⟩ | ⟨again, unprintable⟩)
      · exact absurd homeless homed
      · exact absurd homeless homedToo
      · cases ran.symm.trans again
        cases outcome
        exact .inl (by simpa using unprintable)

theorem escapes_violated {store : Store} {violations : List Violation} :
    EscapesIf (∃ e, Violation.reportAll store violations = .error e) (violated store violations : Sight Nat) := by
  unfold violated
  refine escapes_line (printable_string _) ?_
  cases reported : Violation.reportAll store violations with
  | error e => exact (escapes_always rfl).congr (by simp)
  | ok report =>
    exact (escapes_line (report_all_printable reported) (escapes_never (by decide) rfl)).congr (by simp)

/-- An end that is the same for every kind of value ends a run in the same way. -/
theorem escapes_stops {α : Type} {sight : (α : Type) → Sight α} {ending : Ending} {output : Text}
    (stops : Stops sight) (known : EscapesIf cause (sight Nat)) (ended : sight α = ⟨.error ending, output⟩) :
    EscapesIf cause ⟨.error ending, output⟩ := by
  obtain ⟨_, _, -, same⟩ := stops
  cases (same α).symm.trans ended
  exact same Nat ▸ known

theorem escapes_loading {ending : Ending} {output : Text}
    (ended : loaded path (configAt tree path) = ⟨.error ending, output⟩) :
    EscapesIf (LoadEscapes tree path) ⟨.error ending, output⟩ := by
  cases found : configAt tree path with
  | error e =>
    rw [found] at ended
    -- The complaint cannot be printed only where it shows the path, which is where markup is malformed.
    have known := escapes_stops (said_stops _ (stops_code _)) (escapes_said (escapes_never (by decide) rfl)) ended
    refine known.congr ⟨?_, ?_⟩
    · rintro (unprintable | never)
      · simp only [printable_append, printable_string, true_and, config_error_printable_iff] at unprintable
        obtain ⟨shows, unprintable⟩ := Classical.not_imp.mp unprintable
        exact .malformed found shows unprintable
      · cases never
    · rintro (⟨again, shows, unprintable⟩ | ⟨again, -⟩)
      · cases found.symm.trans again
        refine .inl fun printable => unprintable ?_
        exact config_error_printable_iff.mp (printable_append.mp printable).2 shows
      · cases found.symm.trans again
  | ok held =>
    cases validated : (RunConfig.validate held.store held.value).outcome with
    | ok config =>
      simp only [found, loaded, validated] at ended
      cases ended
    | error violations =>
      simp only [found, loaded, validated] at ended
      refine (escapes_stops (violated_stops _ _) escapes_violated ended).congr ⟨?_, ?_⟩
      · rintro ⟨e, unreportable⟩
        exact .refused found validated unreportable
      · rintro (⟨again, -⟩ | ⟨again, violated, unreportable⟩)
        · cases found.symm.trans again
        · cases found.symm.trans again
          cases validated.symm.trans violated
          exact ⟨_, unreportable⟩

theorem escapes_shown {config : RunConfig} (legal : config.className.isIdentifier = true) :
    EscapesIf (¬ IsPrintable config.input ∨ ¬ IsPrintable config.outputDir) (shown config) := by
  have names : ∀ name ∈ enabledNames config.options, IsPrintable name := by
    intro name listed
    obtain ⟨pair, held, rfl⟩ := List.mem_map.mp listed
    have known : ∀ name ∈ OutputOptions.names, IsPrintable name := by decide
    exact known _ (List.of_mem_zip (List.mem_of_mem_filter held)).1
  have options : IsPrintable ("Options: " ++ if enabledNames config.options = [] then Text.ofString "none"
      else Text.joinWith ", " (enabledNames config.options)) := by
    split
    · simp
    · simpa using (printable_join_iff (printable_string ", ")).mpr names
  have className : IsPrintable ("Class: " ++ config.className) := by simp [identifier_printable legal]
  refine (escapes_line (printable_string _) <| escapes_said <| escapes_line className <| escapes_said <|
    escapes_line options <| escapes_never (by decide) rfl).congr ?_
  simp

theorem escapes_filed {out : Text} {bytes : Bytes} (encoded : Utf8.encode (schemaText ++ "\n") = .ok bytes) :
    EscapesIf (SchemaEscapes homes mark tree out)
      (filed (.ofText out) (filedAt homes mark tree (.ofText out) bytes).1) := by
  cases outcome : (filedAt homes mark tree (.ofText out) bytes).1 with
  | error e => exact (escapes_always rfl).congr (by simpa using .file encoded outcome)
  | ok done =>
    refine (escapes_said (escapes_never (by decide) rfl)).congr ⟨?_, ?_⟩
    · rintro (unprintable | never)
      · exact .path (by simpa using unprintable)
      · cases never
    · rintro (⟨again, refused⟩ | unprintable)
      · cases encoded.symm.trans again
        cases outcome.symm.trans refused
      · exact .inl (by simpa using unprintable)

/-! ### Commands -/

/-- It is known how a run of the arguments of a command ends. -/
def Known (homes : Homes) (mark : Text) (tree : FileTree) (command : Verb) (a : Arguments) : Prop :=
  ∃ sight after, Runs (command.act (FileTree.host homes mark) a) tree sight after ∧
    EscapesIf (Escapes homes mark tree command a) sight

theorem generate_escapes_iff : Escapes homes mark tree .generate a ↔
    (a.value 1).text.isIdentifier = true ∧ (Homeless homes (a.value 0).text ∨ a.has .stdout = false ∧
      ((∃ outputDir, directoryOf a = .word outputDir ∧ JobEscapes homes mark tree (a.value 0).text
          (a.value 1).text outputDir (settled (flagsOf a))) ∨
        directoryOf a = .nothing ∧
          ∃ c, (inferredAt homes tree (a.value 0).text (a.value 1).text).outcome = .ok c)) := by
  constructor
  · intro escapes
    cases escapes with
    | sample _ legal homeless => exact ⟨legal, .inl homeless⟩
    | flags legal off named job => exact ⟨legal, .inr ⟨off, .inl ⟨_, named, job⟩⟩⟩
    | pathless legal off named inferred => exact ⟨legal, .inr ⟨off, .inr ⟨named, _, inferred⟩⟩⟩
    | load loads _ => simp at loads
  · rintro ⟨legal, homeless | ⟨off, ⟨outputDir, named, job⟩ | ⟨named, c, inferred⟩⟩⟩
    · exact .sample (.inl rfl) legal homeless
    · exact .flags legal off named job
    · exact .pathless legal off named inferred

theorem generate_known : Known homes mark tree .generate a := by
  by_cases legal : (a.value 1).text.isIdentifier = true
  · by_cases asked : a.has .stdout = true
    · refine ⟨_, _, runs_generate_stdout homes mark legal asked tree,
        (escapes_inferred legal (escapes_printed _)).congr ?_⟩
      simp [generate_escapes_iff, legal, asked]
    · have off := Bool.eq_false_iff.mpr asked
      cases named : directoryOf a with
      | word outputDir =>
        refine ⟨_, _, runs_generate_file_of legal off named rfl, (escapes_told legal rfl).congr ?_⟩
        have covered : Homeless homes (a.value 0).text → JobEscapes homes mark tree (a.value 0).text
            (a.value 1).text outputDir (settled (flagsOf a)) := .input
        simpa [generate_escapes_iff, legal, off, named] using covered
      | nothing =>
        refine ⟨_, _, runs_generate_pathless homes mark legal off named tree,
          (escapes_inferred legal fun _ => escapes_always rfl).congr ?_⟩
        simp [generate_escapes_iff, legal, off, named]
  · refine ⟨_, _, runs_generate_illegal homes mark legal tree, (escapes_never (by decide) rfl).congr ?_⟩
    simp [generate_escapes_iff, legal]

theorem inspect_escapes_iff : Escapes homes mark tree .inspect a ↔
    (a.value 1).text.isIdentifier = true ∧ (Homeless homes (a.value 0).text ∨
      ∃ c, (inferredAt homes tree (a.value 0).text (a.value 1).text).outcome = .ok c ∧
        c.outline.isWritable = false) := by
  constructor
  · intro escapes
    cases escapes with
    | sample _ legal homeless => exact ⟨legal, .inl homeless⟩
    | outline legal inferred long => exact ⟨legal, .inr ⟨_, inferred, long⟩⟩
    | load loads _ => simp at loads
  · rintro ⟨legal, homeless | ⟨c, inferred, long⟩⟩
    · exact .sample (.inr rfl) legal homeless
    · exact .outline legal inferred long

theorem inspect_known : Known homes mark tree .inspect a := by
  by_cases legal : (a.value 1).text.isIdentifier = true
  · refine ⟨_, _, runs_inspect homes mark legal tree,
      (escapes_inferred legal escapes_outlined).congr ?_⟩
    simp [inspect_escapes_iff, legal]
  · refine ⟨_, _, runs_inspect_illegal homes mark legal tree, (escapes_never (by decide) rfl).congr ?_⟩
    simp [inspect_escapes_iff, legal]

theorem accepted_loads {held : Held} {config : RunConfig} (found : configAt tree path = .ok held)
    (accepted : (RunConfig.validate held.store held.value).outcome = .ok config) :
    ¬ LoadEscapes tree path := by
  rintro (⟨again, -⟩ | ⟨again, violated, -⟩)
  · cases found.symm.trans again
  · cases found.symm.trans again
    cases accepted.symm.trans violated

theorem stopped_not_accepted {held : Held} {config : RunConfig} {ending : Ending} {output : Text}
    (stops : loaded path (configAt tree path) = ⟨.error ending, output⟩)
    (found : configAt tree path = .ok held) :
    (RunConfig.validate held.store held.value).outcome ≠ .ok config := by
  intro accepted
  simp only [found, loaded, accepted] at stops
  cases stops

theorem run_known : Known homes mark tree .run a := by
  rcases loaded_cases (a.value 0).text (configAt tree (a.value 0).text) with
    ⟨held, config, found, accepted, -⟩ | ⟨ending, output, stops, -⟩
  · obtain ⟨entries, -, legal, -⟩ := accepted_config accepted
    refine ⟨_, _, runs_config_file found accepted rfl,
      (escapes_told legal rfl).congr ⟨.config found accepted, fun escapes => ?_⟩⟩
    cases escapes with
    | sample reads _ _ => simp at reads
    | load _ load => exact absurd load (accepted_loads found accepted)
    | config again other job =>
      cases found.symm.trans again
      cases accepted.symm.trans other
      exact job
  · refine ⟨_, _, runs_config_stop stops, (escapes_loading stops).congr ⟨.load (.inl rfl), fun escapes => ?_⟩⟩
    cases escapes with
    | sample reads _ _ => simp at reads
    | load _ load => exact load
    | config found accepted _ => exact absurd accepted (stopped_not_accepted stops found)

theorem validate_known : Known homes mark tree .validate a := by
  rcases loaded_cases (a.value 0).text (configAt tree (a.value 0).text) with
    ⟨held, config, found, accepted, -⟩ | ⟨ending, output, stops, -⟩
  · obtain ⟨entries, -, legal, -⟩ := accepted_config accepted
    refine ⟨_, _, runs_validate_file found accepted,
      (escapes_shown legal).congr ⟨.shown found accepted, fun escapes => ?_⟩⟩
    cases escapes with
    | sample reads _ _ => simp at reads
    | load _ load => exact absurd load (accepted_loads found accepted)
    | shown again other unprintable =>
      cases found.symm.trans again
      cases accepted.symm.trans other
      exact unprintable
  · refine ⟨_, _, runs_validate_stop stops, (escapes_loading stops).congr ⟨.load (.inr rfl), fun escapes => ?_⟩⟩
    cases escapes with
    | sample reads _ _ => simp at reads
    | load _ load => exact load
    | shown found accepted _ => exact absurd accepted (stopped_not_accepted stops found)

theorem schema_known : Known homes mark tree .schema a := by
  cases named : a.value? .out with
  | none =>
    have printable : IsPrintable schemaText := ascii_document_printable _ _
    refine ⟨_, _, runs_schema_shown homes mark named tree,
      (escapes_line printable (escapes_never (by decide) rfl)).congr ⟨False.elim, fun escapes => ?_⟩⟩
    cases escapes with
    | sample reads _ _ => simp at reads
    | load loads _ => simp at loads
    | schemaless again => cases named.symm.trans again
    | schema again _ => cases named.symm.trans again
  | some given =>
    cases given with
    | nothing =>
      exact ⟨_, _, runs_schema_pathless homes mark named tree,
        (escapes_always rfl).congr ⟨fun _ => .schemaless named, fun _ => trivial⟩⟩
    | word out =>
      obtain ⟨bytes, encoded⟩ : ∃ bytes, Utf8.encode (schemaText ++ "\n") = .ok bytes :=
        encode_ok_iff.mpr (by simp [schemaText])
      refine ⟨_, _, runs_schema_file homes mark named encoded tree,
        (escapes_filed encoded).congr ⟨.schema named, fun escapes => ?_⟩⟩
      cases escapes with
      | sample reads _ _ => simp at reads
      | load loads _ => simp at loads
      | schemaless again => cases named.symm.trans again
      | schema again schema =>
        cases named.symm.trans again
        exact schema

theorem command_known (command : Verb) : Known homes mark tree command a := by
  cases command with
  | generate => exact generate_known
  | run => exact run_known
  | validate => exact validate_known
  | inspect => exact inspect_known
  | schema => exact schema_known

/-! ### Whole runs -/

variable {run : Command.Run}

theorem words_known (homes : Homes) (mark : Text) (command : Verb) (words : List Text) (tree : FileTree) :
    ∃ sight after, Runs (command.perform (FileTree.host homes mark) words) tree sight after ∧
      EscapesIf (∃ a, command.grammar.read words = .ok a ∧ Escapes homes mark tree command a) sight := by
  cases read : command.grammar.read words with
  | ok a =>
    have acts : Known homes mark tree command a := command_known command
    obtain ⟨sight, after, runs, known⟩ := acts
    exact ⟨sight, after, runs_act read runs, known.congr (by simp)⟩
  | error stop =>
    cases stop with
    | help => exact ⟨_, _, runs_help homes mark read tree, (escapes_never (by decide) rfl).congr (by simp)⟩
    | wrong error =>
      exact ⟨_, _, runs_wrong homes mark read tree, (escapes_never (by decide) rfl).congr (by simp)⟩

/-- A run ends with the code 0, 1 or 2, unless its arguments are among those that end it without
a code. -/
theorem ends_with_code_iff (line : lineOf words = (command, rest))
    (ran : (Command.run (FileTree.host homes mark) words).run before = (run, after)) :
    ((∃ code ≤ 2, run.ending = .code code) ↔
      ∀ a, command.grammar.read rest = .ok a → ¬ Escapes homes mark before command a) ∧
    ((∃ e, run.ending = .escape e) ↔
      ∃ a, command.grammar.read rest = .ok a ∧ Escapes homes mark before command a) := by
  obtain ⟨sight, left, runs, known⟩ := words_known homes mark command rest before
  obtain ⟨errors, same⟩ := run_of_line line runs
  cases same.symm.trans ran
  refine ⟨⟨?_, fun none => known.ends fun ⟨a, read, escapes⟩ => none a read escapes⟩, ?_, known.escapes⟩
  · rintro ⟨code, -, ended⟩ a read escapes
    obtain ⟨e, escaped⟩ := known.escapes ⟨a, read, escapes⟩
    cases ended.symm.trans escaped
  · rintro ⟨e, escaped⟩
    by_contra none
    obtain ⟨code, -, ended⟩ := known.ends none
    cases ended.symm.trans escaped

/-- A directory to work in that holds a sample, an object with the number one. -/
def desk : FileTree where
  working := ["work"]
  entries := [(["work"], .directory),
    (["work", "s.json"], .file [0x7b, 0x22, 0x61, 0x22, 0x3a, 0x20, 0x31, 0x7d])]

/-- What comes of some words there. -/
def deskRun (words : List Text) : Command.Run × FileTree :=
  (Command.run (FileTree.host ⟨"home", []⟩ "1-1") words).run desk

/-- The words for a class in the home of a user that there is not. -/
def strangerWords : List Text := ["s.json", "Root", "-o", "~nosuchuser"]

/-- The words for the outline of a class. -/
def outlineWords : List Text := ["inspect", "s.json", "Root"]

/-- The class is outlined, and that it cannot be put in the home of a stranger is not told. -/
theorem desk_endings : (∃ code ≤ 2, (deskRun outlineWords).1.ending = .code code) ∧
    ∃ e, (deskRun strangerWords).1.ending = .escape e := by
  have sampleHome : ¬ Homeless ⟨"home", []⟩ "s.json" := by
    rw [← homeless_iff]
    decide
  have strangerHome : Homeless ⟨"home", []⟩ "~nosuchuser" := by
    rw [← homeless_iff]
    decide
  obtain ⟨c, inferred, writable⟩ : ∃ c, (inferredAt ⟨"home", []⟩ desk "s.json" "Root").outcome = .ok c ∧
      c.outline.isWritable = true := by
    have known : (inferredAt ⟨"home", []⟩ desk "s.json" "Root").outcome.toOption.map
        (fun c => c.outline.isWritable) = some true := by decide +kernel
    exact ok_of_asked known
  constructor
  · have reads : (Verb.inspect.grammar.read ["s.json", "Root"]).toOption.map (·.values) =
        some [.word "s.json", .word "Root"] := by decide +kernel
    obtain ⟨a, read, values⟩ := ok_of_asked reads
    have line : lineOf outlineWords = (Verb.inspect, [Text.ofString "s.json", Text.ofString "Root"]) := by decide
    refine (ends_with_code_iff line rfl).1.mpr fun other again escapes => ?_
    cases read.symm.trans again
    cases escapes with
    | sample _ _ homeless =>
      rw [Arguments.value, values] at homeless
      exact sampleHome homeless
    | outline _ again long =>
      rw [Arguments.value, Arguments.value, values] at again
      cases inferred.symm.trans again
      cases writable.symm.trans long
    | load loads _ => simp at loads
  · have reads : (Verb.generate.grammar.read strangerWords).toOption.map
        (fun a => (a.values, a.has .stdout, directoryOf a)) =
          some ([.word "s.json", .word "Root"], false, .word "~nosuchuser") := by decide +kernel
    obtain ⟨a, read, asked⟩ := ok_of_asked reads
    simp only [Prod.mk.injEq] at asked
    obtain ⟨values, off, named⟩ := asked
    have line : lineOf strangerWords = (.generate, strangerWords) := by decide
    have legal : (a.value 1).text.isIdentifier = true := by
      rw [Arguments.value, values]
      decide
    have inferred : (inferredAt ⟨"home", []⟩ desk (a.value 0).text (a.value 1).text).outcome = .ok c := by
      rw [Arguments.value, Arguments.value, values]
      exact inferred
    exact (ends_with_code_iff line rfl).2.mpr
      ⟨a, read, .flags legal off named (.output inferred strangerHome)⟩

/-- That run ends with no code at all. -/
theorem stranger_escapes : ¬ ∃ code ≤ 2, (deskRun strangerWords).1.ending = .code code := by
  have escaped : (deskRun strangerWords).1.ending = .escape .homeUnknown := by decide +kernel
  rintro ⟨code, -, ended⟩
  cases escaped.symm.trans ended

end ClassMold.Endings
