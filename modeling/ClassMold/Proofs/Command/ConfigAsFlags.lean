import ClassMold.Proofs.Command.Views

/-! A configuration file says no more than flags do. An accepted configuration holds the
settings of a command line that is accepted in the same way, and both are generated by one
step; whether setters have given way to final fields before or still have to makes no
difference. So all that is seen of either run is the same, failures included. -/
namespace ClassMold.ConfigAsFlags
open Command Seen Generated Views Accepted

variable {homes : Homes} {mark : Text} {tree after after' : FileTree} {filing flagging rest more : List Text}
  {a b : Arguments} {held : Held} {config : RunConfig} {run run' : Command.Run}

/-- The options of a configuration file, as they are written there. -/
def fileOptions (held : Held) : OutputOptions :=
  match held.store.look held.value with
  | .mapping entries => writtenOptions held.store entries
  | _ => {}

/-- A command line gives the settings of a configuration: its options as they are written in the
file, or as they are after validation. -/
structure SameSettings (b : Arguments) (held : Held) (config : RunConfig) : Prop where
  input : b.value 0 = .word config.input
  className : b.value 1 = .word config.className
  outputDir : directoryOf b = .word config.outputDir
  options : flagsOf b = fileOptions held ∨ flagsOf b = config.options
  off : b.has .stdout = false

/-- However they are written, the flags come to the options of the configuration. -/
theorem settled_flags (same : SameSettings b held config)
    (accepted : (RunConfig.validate held.store held.value).outcome = .ok config) :
    settled (flagsOf b) = config.options := by
  obtain ⟨entries, looked, -, options⟩ := accepted_config accepted
  have written : fileOptions held = writtenOptions held.store entries := by simp [fileOptions, looked]
  rcases same.options with asWritten | validated
  · rw [asWritten, written, options]
  · rw [validated, options, settled_settled]

/-- A run of a configuration file and a run of the same settings as flags end alike, print the
same and leave the same tree. -/
theorem config_as_flags (found : configAt tree (a.value 0).text = .ok held)
    (accepted : (RunConfig.validate held.store held.value).outcome = .ok config)
    (same : SameSettings b held config)
    (filed : lineOf filing = (.run, rest)) (fileRead : Verb.run.grammar.read rest = .ok a)
    (flagged : lineOf flagging = (.generate, more)) (flagRead : Verb.generate.grammar.read more = .ok b)
    (ran : (Command.run (FileTree.host homes mark) filing).run tree = (run, after))
    (went : (Command.run (FileTree.host homes mark) flagging).run tree = (run', after')) :
    run.ending = run'.ending ∧ run.transcript.output = run'.transcript.output ∧ after = after' := by
  obtain ⟨-, -, legal, -⟩ := accepted_config accepted
  have input : (b.value 0).text = config.input := by rw [same.input]; rfl
  have className : (b.value 1).text = config.className := by rw [same.className]; rfl
  have files : Runs (runConfig (FileTree.host homes mark) a) tree _ _ := runs_config_file found accepted rfl
  have flags : Runs (runGenerate (FileTree.host homes mark) b) tree _ _ :=
    runs_generate_file_of (className ▸ legal) same.off same.outputDir rfl
  rw [input, className, settled_flags same accepted] at flags
  obtain ⟨errors, one⟩ := run_of_line filed (runs_act fileRead files)
  obtain ⟨errors', two⟩ := run_of_line flagged (runs_act flagRead flags)
  cases one.symm.trans ran
  cases two.symm.trans went
  exact ⟨rfl, rfl, rfl⟩

/-- A configuration that asks for both final fields and setters. -/
def bothAsked : Text :=
  "\x7b\"input\": \"s.json\", \"class_name\": \"Root\", " ++
    "\"options\": \x7b\"final_fields\": true, \"setters\": true\x7d\x7d"

/-- A directory to work in with that configuration and a sample, an object with the number one. -/
def study : FileTree where
  working := ["work"]
  entries := [(["work"], .directory), (["work", "c.json"], .file (nameBytes bothAsked)),
    (["work", "s.json"], .file [0x7b, 0x22, 0x61, 0x22, 0x3a, 0x20, 0x31, 0x7d])]

/-- What comes of some words there. -/
def studyRun (words : List Text) : Command.Run × FileTree :=
  (Command.run (FileTree.host ⟨"home", []⟩ "1-1") words).run study

/-- The words for the configuration. -/
def fileWords : List Text := ["run", "c.json"]

/-- The words for the same settings. -/
def flagWords : List Text := ["s.json", "Root", "--setters", "--final-fields", "-v"]

/-- Setters give way to final fields in both runs. -/
theorem study_runs_agree : (studyRun fileWords).1.ending = .code 0 ∧
    (studyRun fileWords).1.ending = (studyRun flagWords).1.ending ∧
    (studyRun fileWords).1.transcript.output = (studyRun flagWords).1.transcript.output ∧
    (studyRun fileWords).2 = (studyRun flagWords).2 := by
  have filing : (Verb.run.grammar.read ["c.json"]).toOption.map (·.values) = some [.word "c.json"] := by
    decide +kernel
  have flagging : (Verb.generate.grammar.read flagWords).toOption.map
      (fun b => (b.values, flagsOf b, b.has .stdout, directoryOf b)) =
        some ([.word "s.json", .word "Root"], { setters := true, finalFields := true }, false, .word ".") := by
    decide +kernel
  have loading : (configAt study "c.json").toOption.map
      (fun held => ((RunConfig.validate held.store held.value).outcome.toOption, fileOptions held)) =
        some (some ⟨"1.0", "s.json", "Root", ".", { finalFields := true }⟩,
          { setters := true, finalFields := true }) := by decide +kernel
  have ended : (studyRun fileWords).1.ending = .code 0 := by decide +kernel
  obtain ⟨a, fileRead, path⟩ := ok_of_asked filing
  obtain ⟨b, flagRead, wanted⟩ := ok_of_asked flagging
  obtain ⟨held, found, told⟩ := ok_of_asked loading
  simp only [Prod.mk.injEq] at wanted told
  obtain ⟨values, flags, off, directory⟩ := wanted
  obtain ⟨validated, options⟩ := told
  have accepted := ok_of_option validated
  have first : a.value 0 = .word "c.json" := by rw [Arguments.value, path]; rfl
  have same : SameSettings b held ⟨"1.0", "s.json", "Root", ".", { finalFields := true }⟩ := by
    refine ⟨?_, ?_, directory, .inl (flags.trans options.symm), off⟩
    · rw [Arguments.value, values]; rfl
    · rw [Arguments.value, values]; rfl
  have filed : lineOf fileWords = (Verb.run, [Text.ofString "c.json"]) := by decide
  have flagged : lineOf flagWords = (.generate, flagWords) := by decide
  have found' : configAt study (a.value 0).text = .ok held := by rw [first]; exact found
  exact ⟨ended, config_as_flags found' accepted same filed fileRead flagged flagRead rfl rfl⟩

end ClassMold.ConfigAsFlags
