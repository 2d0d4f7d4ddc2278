import ClassMold.Proofs.Command.Views

/-! Writing is all or nothing. A run that ends well has put one source file in its place, and
apart from it there is nothing new but directories on the way there; a run that ends with
another code has touched no file, at whatever point it went wrong. Runs that are to show
something leave the tree exactly as it is. The mark of the staging file is taken to be
fresh: the process and the clock give one that nothing in the tree is named after. -/
namespace ClassMold.AllOrNothing
open ClassMold.Path Paths Command Seen Staging Generated Views

variable {homes : Homes} {mark : Text} {words rest : List Text} {before after : FileTree}
  {a : Arguments} {command : Verb} {run : Command.Run}

/-- What a run is asked to generate. -/
structure Job where
  input : Text
  className : Text
  outputDir : Text
  options : OutputOptions

/-- What the arguments of a command ask for, the options being those that were validated. -/
inductive Asks (tree : FileTree) : Verb → Arguments → Job → Prop where
  | flags {a : Arguments} {outputDir : Text} {options : OutputOptions}
      (named : directoryOf a = .word outputDir) (accepted : (outputOptions a).outcome = .ok options) :
      Asks tree .generate a ⟨(a.value 0).text, (a.value 1).text, outputDir, options⟩
  | file {a : Arguments} {held : Held} {config : RunConfig}
      (found : configAt tree (a.value 0).text = .ok held)
      (accepted : (RunConfig.validate held.store held.value).outcome = .ok config) :
      Asks tree .run a ⟨config.input, config.className, config.outputDir, config.options⟩

/-- The source file that was asked for is in place, and no other file is new or changed. -/
def Written (homes : Homes) (mark : Text) (before after : FileTree) (job : Job) : Prop :=
  ∃ directory bytes place, (ofText job.outputDir).expandHome homes = .ok directory ∧
    IsSource homes before job.input job.className job.options bytes ∧
    Placed (inside directory (sourceName job.className)) bytes place before after ∧
    ∀ led content, after.place (inside directory (stagingName mark (sourceName job.className))).toText = .ok led →
      after.entry? led ≠ some (.file content)

/-- How a run ends and what it leaves go together. -/
structure Fair (homes : Homes) (mark : Text) (before : FileTree) (asked : Job → Prop) (ending : Ending)
    (after : FileTree) : Prop where
  success : ending = .code 0 → ∃ job, asked job ∧ Written homes mark before after job
  failure : ∀ code, ending = .code code → code ≠ 0 → SameFiles before after

variable {job : Job} {asked : Job → Prop} {ending : Ending} {reported : Reported GenerationError Path}

theorem fair_idle (before : FileTree) (other : ending ≠ .code 0) :
    Fair homes mark before asked ending before :=
  ⟨fun ended => absurd ended other, fun _ _ _ _ _ => .rfl⟩

/-! ### How commands end -/

theorem said_ending (t : Text) (sight : Sight Nat) : endingOf (said t sight).result = endingOf sight.result ∨
    ∃ escape, endingOf (said t sight).result = .escape escape := by
  unfold said
  split
  · exact .inr ⟨_, rfl⟩
  · exact .inl rfl

/-- A generation that is told of is fair. -/
theorem told_fair (legal : job.className.isIdentifier = true) (fresh : Fresh mark before) (wanted : asked job)
    (ran : (generate (FileTree.host homes mark) job.input job.className job.outputDir job.options).run
      before = (reported, after)) :
    Fair homes mark before asked (endingOf (told reported.outcome).result) after := by
  rcases generate_run legal fresh ran with ⟨e, failed, same⟩ |
    ⟨target, bytes, place, wrote, path, source, placed⟩
  · rw [failed]
    exact ⟨fun ended => absurd ended (fails_ending (failed_fails e)), fun _ _ _ => same⟩
  · obtain ⟨directory, expanded, rfl⟩ := (source_path_ok_iff legal).mp path
    rw [wrote, told]
    constructor
    · intro _
      refine ⟨job, wanted, directory, bytes, place, expanded, source, placed, ?_⟩
      intro led content leads
      rw [← staging_path_inside] at leads
      exact staging_gone legal fresh path placed leads
    · intro code ended other
      rcases said_ending ("Generated " ++ (inside directory (sourceName job.className)).toText) ⟨.ok 0, []⟩ with
        well | ⟨escape, escaped⟩
      · cases well.symm.trans ended
        exact absurd rfl other
      · cases escaped.symm.trans ended

/-- What a run of the arguments of a command shows and leaves. -/
def ActsFairly (homes : Homes) (mark : Text) (command : Verb) (a : Arguments) (before : FileTree) : Prop :=
  ∃ sight after, Runs (command.act (FileTree.host homes mark) a) before sight after ∧
    Fair homes mark before (Asks before command a) (endingOf sight.result) after

theorem generate_acts_fairly (fresh : Fresh mark before) (off : a.has .stdout = false) :
    ActsFairly homes mark .generate a before := by
  by_cases legal : (a.value 1).text.isIdentifier = true
  · cases named : directoryOf a with
    | word outputDir =>
      exact ⟨_, _, runs_generate_file_of legal off named rfl,
        told_fair legal fresh (.flags named (output_options_ok a)) rfl⟩
    | nothing =>
      refine ⟨_, _, runs_generate_pathless homes mark legal off named before, fair_idle before ?_⟩
      unfold inferredThen
      split
      · exact fails_ending (failed_fails _)
      · exact Ending.noConfusion
  · have bad : Ending.code 2 ≠ .code 0 := by decide
    exact ⟨_, _, runs_generate_illegal homes mark legal before, fair_idle before bad⟩

theorem run_acts_fairly (fresh : Fresh mark before) : ActsFairly homes mark .run a before := by
  rcases loaded_cases (a.value 0).text (configAt before (a.value 0).text) with
    ⟨held, config, found, accepted, -⟩ | fails
  · obtain ⟨entries, -, legal, -⟩ := Accepted.accepted_config accepted
    exact ⟨_, _, runs_config_file found accepted rfl, told_fair legal fresh (.file found accepted) rfl⟩
  · obtain ⟨ending, output, stops, bad⟩ := fails
    exact ⟨_, _, runs_config_stop stops, fair_idle before bad⟩

/-! ### Runs that only show something -/

/-- A run of the words of a command that leaves the tree as it is. -/
def Keeps (homes : Homes) (mark : Text) (command : Verb) (words : List Text) (tree : FileTree) : Prop :=
  ∃ sight, Runs (command.perform (FileTree.host homes mark) words) tree sight tree

theorem unread_keeps {stop : Stop} (read : command.grammar.read words = .error stop) (tree : FileTree) :
    Keeps homes mark command words tree := by
  cases stop with
  | help => exact ⟨_, runs_help homes mark read tree⟩
  | wrong error => exact ⟨_, runs_wrong homes mark read tree⟩

theorem stdout_keeps (read : Verb.generate.grammar.read words = .ok a) (asked : a.has .stdout = true)
    (tree : FileTree) : Keeps homes mark .generate words tree := by
  by_cases legal : (a.value 1).text.isIdentifier = true
  · exact ⟨_, runs_act read (runs_generate_stdout homes mark legal asked tree)⟩
  · exact ⟨_, runs_act read (runs_generate_illegal homes mark legal tree)⟩

theorem showing_keeps (shows : command = .validate ∨ command = .inspect) (words : List Text)
    (tree : FileTree) : Keeps homes mark command words tree := by
  cases read : command.grammar.read words with
  | error stop => exact unread_keeps read tree
  | ok a =>
    rcases shows with rfl | rfl
    · rcases loaded_cases (a.value 0).text (configAt tree (a.value 0).text) with
        ⟨held, config, found, accepted, -⟩ | ⟨ending, output, stops, -⟩
      · exact ⟨_, runs_act read (runs_validate_file found accepted)⟩
      · exact ⟨_, runs_act read (runs_validate_stop stops)⟩
    · by_cases legal : (a.value 1).text.isIdentifier = true
      · exact ⟨_, runs_act read (runs_inspect homes mark legal tree)⟩
      · exact ⟨_, runs_act read (runs_inspect_illegal homes mark legal tree)⟩

/-! ### Whole runs -/

theorem kept_run (line : lineOf words = (command, rest)) (keeps : Keeps homes mark command rest before)
    (ran : (Command.run (FileTree.host homes mark) words).run before = (run, after)) : after = before := by
  obtain ⟨sight, runs⟩ := keeps
  obtain ⟨errors, same⟩ := run_of_line line runs
  cases same.symm.trans ran
  rfl

theorem fair_run (line : lineOf words = (command, rest))
    (read : command.grammar.read rest = .ok a) (acts : ActsFairly homes mark command a before)
    (ran : (Command.run (FileTree.host homes mark) words).run before = (run, after)) :
    Fair homes mark before (Asks before command a) run.ending after := by
  obtain ⟨sight, left, runs, fair⟩ := acts
  obtain ⟨errors, same⟩ := run_of_line line (runs_act read runs)
  cases same.symm.trans ran
  exact fair

/-- A run that generates puts the file in place that was asked for or touches none, and a run
that shows something leaves the tree as it is. -/
theorem all_or_nothing (fresh : Fresh mark before) (line : lineOf words = (command, rest))
    (ran : (Command.run (FileTree.host homes mark) words).run before = (run, after)) :
    (command = .generate ∨ command = .run →
      (∀ a, command.grammar.read rest = .ok a → (command = .generate → a.has .stdout = false) →
        run.ending = .code 0 → ∃ job, Asks before command a job ∧ Written homes mark before after job) ∧
      ∀ code, run.ending = .code code → code ≠ 0 → SameFiles before after) ∧
    (command = .validate ∨ command = .inspect → after = before) ∧
    ∀ a, command = .generate → command.grammar.read rest = .ok a → a.has .stdout = true →
      after = before := by
  refine ⟨fun writes => ?_, fun shows => kept_run line (showing_keeps shows rest before) ran, ?_⟩
  · -- Only a run that gets to writing has to be fair; words that are not read and sources that
    -- are printed leave the tree alone.
    have fair : ∀ a, command.grammar.read rest = .ok a → (command = .generate → a.has .stdout = false) →
        Fair homes mark before (Asks before command a) run.ending after := by
      intro a read off
      refine fair_run line read ?_ ran
      rcases writes with rfl | rfl
      · exact generate_acts_fairly fresh (off rfl)
      · exact run_acts_fairly fresh
    refine ⟨fun a read off => (fair a read off).success, fun code ended other => ?_⟩
    cases read : command.grammar.read rest with
    | error stop =>
      rw [kept_run line (unread_keeps read before) ran]
      exact fun _ _ => .rfl
    | ok a =>
      by_cases printing : command = .generate ∧ a.has .stdout = true
      · obtain ⟨rfl, asked⟩ := printing
        rw [kept_run line (stdout_keeps read asked before) ran]
        exact fun _ _ => .rfl
      · refine (fair a read fun same => ?_).failure code ended other
        exact Bool.eq_false_iff.mpr fun asked => printing ⟨same, asked⟩
  · rintro a rfl read asked
    exact kept_run line (stdout_keeps read asked before) ran

/-- A directory to work in that holds a sample, an object with the number one. -/
def workshop : FileTree where
  working := ["work"]
  entries := [(["work"], .directory),
    (["work", "s.json"], .file [0x7b, 0x22, 0x61, 0x22, 0x3a, 0x20, 0x31, 0x7d])]

/-- The words for a class in a directory that is not there yet. -/
def workshopWords : List Text := ["s.json", "Root", "-o", "src/main"]

/-- What comes of these words. -/
def workshopRun : Command.Run × FileTree :=
  (Command.run (FileTree.host ⟨"home", []⟩ "1-1") workshopWords).run workshop

/-- That run ends well, so the file is there and nothing else but its directories. -/
theorem workshop_class_written : workshopRun.1.ending = .code 0 ∧ ∃ a job,
    Asks workshop .generate a job ∧ Written ⟨"home", []⟩ "1-1" workshop workshopRun.2 job := by
  have fresh : Fresh "1-1" workshop := ⟨by decide, by decide⟩
  have line : lineOf workshopWords = (.generate, workshopWords) := by decide
  have ended : workshopRun.1.ending = .code 0 := by decide +kernel
  have reads : ((Verb.generate.grammar.read workshopWords).toOption.map (·.has .stdout)) = some false := by
    decide +kernel
  obtain ⟨a, read, off⟩ := ok_of_asked reads
  have ran : (Command.run (FileTree.host ⟨"home", []⟩ "1-1") workshopWords).run workshop =
      (workshopRun.1, workshopRun.2) := rfl
  obtain ⟨success, -⟩ := (all_or_nothing fresh line ran).1 (.inl rfl)
  obtain ⟨job, asks, written⟩ := success a read (fun _ => off) ended
  exact ⟨ended, a, job, asks, written⟩

end ClassMold.AllOrNothing
