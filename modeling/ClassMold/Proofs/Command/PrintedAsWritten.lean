import ClassMold.Proofs.Command.Views
import ClassMold.Proofs.Files.Room

/-! Printing a source and writing it agree. Both go the same way up to the source and
complain of a missing shape or of a text without bytes in the same words; after that, writing
can only fail for want of room, where the name of the staging file or the path to it is
longer than the operating system allows. -/
namespace ClassMold.PrintedAsWritten
open ClassMold.Path Paths Growth Command Seen Staging Generated Views Printable Accepted Room

variable {homes : Homes} {mark outputDir : Text} {tree shownTree after : FileTree} {directory : Path}
  {place : List Text} {printing writing rest more : List Text} {a b : Arguments}
  {shown written : Command.Run} {file : List Text}

/-- Two command lines ask for the same class, the first on the screen and the second in a directory. -/
structure SameRequest (a b : Arguments) (outputDir : Text) : Prop where
  values : a.values = b.values
  flags : flagsOf a = flagsOf b
  asked : a.has .stdout = true
  off : b.has .stdout = false
  named : directoryOf b = .word outputDir

/-- What a first run prints and what a second one leaves in a file agree: they end alike, with
the same text if all is well and with the same complaint if not. -/
structure Agree (shown written : Command.Run) (after : FileTree) (file : List Text) : Prop where
  ending : shown.ending = written.ending
  content : shown.ending = .code 0 → ∃ bytes, Utf8.encode shown.transcript.output = .ok bytes ∧
    after.entry? file = some (.file bytes)
  complaint : shown.ending ≠ .code 0 → shown.transcript.output = written.transcript.output

theorem agree_failed {sight : Sight Nat} (fails : Fails sight) {errors errors' : Text} :
    Agree ⟨endingOf sight.result, ⟨sight.output, errors⟩⟩ ⟨endingOf sight.result, ⟨sight.output, errors'⟩⟩
      after file :=
  ⟨rfl, fun well => absurd well (fails_ending fails), fun _ => rfl⟩

theorem target_printable {className : Text} (printable : IsPrintable directory.toText)
    (legal : className.isIdentifier = true) :
    IsPrintable (inside directory (sourceName className)).toText := by
  rw [inside_text, printable_append]
  constructor
  · intro c listed
    rcases lead_part listed with rfl | part
    · rfl
    · exact printable c part
  · simp [sourceName, identifier_printable legal]

/-- What is seen of a run that writes, next to what is seen of one that prints. -/
theorem sights_agree (same : SameRequest a b outputDir) (legal : (b.value 1).text.isIdentifier = true)
    (fresh : Fresh mark tree) (expanded : (ofText outputDir).expandHome homes = .ok directory)
    (leads : tree.place directory.toText = .ok place) (present : tree.entry? place = some .directory)
    (printable : IsPrintable directory.toText)
    (free : tree.entry? (place ++ [sourceName (b.value 1).text]) ≠ some .directory)
    (fits : Fits directory (stagingName mark (sourceName (b.value 1).text))) :
    ∃ first second after, Runs (runGenerate (FileTree.host homes mark) a) tree first tree ∧
      Runs (runGenerate (FileTree.host homes mark) b) tree second after ∧
      ∀ errors errors', Agree ⟨endingOf first.result, ⟨first.output, errors⟩⟩
        ⟨endingOf second.result, ⟨second.output, errors'⟩⟩ after
        (place ++ [sourceName (b.value 1).text]) := by
  have values : ∀ position, a.value position = b.value position := fun position => by
    rw [Arguments.value, Arguments.value, same.values]
  have prints := runs_generate_stdout homes mark (by rw [values]; exact legal) same.asked tree
  rw [values, values, same.flags] at prints
  -- Up to the class both go one way; after it only the bytes of the source decide.
  cases inferred : (inferredAt homes tree (b.value 0).text (b.value 1).text).outcome with
  | error e =>
    obtain ⟨notices, ran⟩ := generate_of_error inferred
    rw [inferred] at prints
    exact ⟨_, _, _, prints, runs_generate_file_of legal same.off same.named ran,
      fun _ _ => agree_failed (failed_fails e)⟩
  | ok c =>
    obtain ⟨reported, after, ran, tells⟩ :=
      generate_present legal fresh inferred expanded leads present free fits
    have writes := runs_generate_file_of legal same.off same.named ran
    rw [inferred] at prints
    unfold inferredThen printed at prints
    cases encoded : Utf8.encode (c.renderFile (settled (flagsOf b))) with
    | error e =>
      simp only [encoded] at prints tells
      rw [tells] at writes
      exact ⟨_, _, _, prints, writes, fun _ _ => agree_failed (failed_fails _)⟩
    | ok bytes =>
      simp only [encoded] at prints tells
      obtain ⟨outcome, rfl⟩ := tells
      rw [outcome, told_printable (target_printable printable legal)] at writes
      refine ⟨_, _, _, prints, writes, fun _ _ => ⟨rfl, fun _ => ⟨bytes, encoded, ?_⟩, fun bad => ?_⟩⟩
      · rw [entry_insert (by simp), if_pos rfl]
      · exact absurd rfl bad

/-- In a directory that is there and has room for the staging file, a run that prints the
source and one that writes it agree. -/
theorem printed_as_written (same : SameRequest a b outputDir) (fresh : Fresh mark tree)
    (printed : lineOf printing = (.generate, rest)) (printedRead : Verb.generate.grammar.read rest = .ok a)
    (filed : lineOf writing = (.generate, more)) (filedRead : Verb.generate.grammar.read more = .ok b)
    (shows : (Command.run (FileTree.host homes mark) printing).run tree = (shown, shownTree))
    (writes : (Command.run (FileTree.host homes mark) writing).run tree = (written, after))
    (expanded : (ofText outputDir).expandHome homes = .ok directory)
    (leads : tree.place directory.toText = .ok place) (present : tree.entry? place = some .directory)
    (printable : IsPrintable directory.toText)
    (free : tree.entry? (place ++ [sourceName (b.value 1).text]) ≠ some .directory)
    (fits : Fits directory (stagingName mark (sourceName (b.value 1).text))) :
    Agree shown written after (place ++ [sourceName (b.value 1).text]) := by
  have values : a.value 1 = b.value 1 := by rw [Arguments.value, Arguments.value, same.values]
  by_cases legal : (b.value 1).text.isIdentifier = true
  · obtain ⟨one, two, left, prints, files, agree⟩ :=
      sights_agree same legal fresh expanded leads present printable free fits
    obtain ⟨errors, ran⟩ := run_of_line printed (runs_act printedRead prints)
    obtain ⟨errors', went⟩ := run_of_line filed (runs_act filedRead files)
    cases ran.symm.trans shows
    cases went.symm.trans writes
    exact agree errors errors'
  · have prints := runs_generate_illegal homes mark (by rw [values]; exact legal) tree
    have files := runs_generate_illegal homes mark legal tree
    rw [values] at prints
    obtain ⟨errors, ran⟩ := run_of_line printed (runs_act printedRead prints)
    obtain ⟨errors', went⟩ := run_of_line filed (runs_act filedRead files)
    cases ran.symm.trans shows
    cases went.symm.trans writes
    have fails : Fails (⟨.error (.code 2), nameComplaint (b.value 1) ++ "\n"⟩ : Sight Nat) :=
      ⟨_, _, rfl, by decide⟩
    exact agree_failed fails

/-- A name that takes 252 bytes. -/
def wide : Text := List.replicate 63 (.scalar '😀')

/-- A directory to work in with a sample, an object with the number one, and a directory with
that name. -/
def park : FileTree where
  working := ["work"]
  entries := [(["work"], .directory), (["work", wide], .directory),
    (["work", "s.json"], .file [0x7b, 0x22, 0x61, 0x22, 0x3a, 0x20, 0x31, 0x7d])]

/-- What comes of some words there. -/
def parkRun (words : List Text) : Command.Run × FileTree :=
  (Command.run (FileTree.host ⟨"home", []⟩ "1-1") words).run park

/-- What the words of a command line ask for. -/
def asksFor (a : Arguments) : List Given × OutputOptions × Bool × Given :=
  (a.values, flagsOf a, a.has .stdout, directoryOf a)

/-- The words for a class that is printed. -/
def printingWords : List Text := ["s.json", "Root", "--getters", "--stdout"]

/-- The words for the same class in the directory to work in. -/
def filingWords : List Text := ["s.json", "Root", "--getters"]

theorem same_request : ∃ a b, Verb.generate.grammar.read printingWords = .ok a ∧
    Verb.generate.grammar.read filingWords = .ok b ∧ SameRequest a b "." ∧ b.value 1 = .word "Root" := by
  have printing : (Verb.generate.grammar.read printingWords).toOption.map asksFor =
      some ([.word "s.json", .word "Root"], { getters := true }, true, .word ".") := by decide +kernel
  have filing : (Verb.generate.grammar.read filingWords).toOption.map asksFor =
      some ([.word "s.json", .word "Root"], { getters := true }, false, .word ".") := by decide +kernel
  obtain ⟨a, read, asked⟩ := ok_of_asked printing
  obtain ⟨b, readToo, wanted⟩ := ok_of_asked filing
  simp only [asksFor, Prod.mk.injEq] at asked wanted
  obtain ⟨values, flags, shown, -⟩ := asked
  obtain ⟨values', flags', off, named⟩ := wanted
  refine ⟨a, b, read, readToo, ⟨values.trans values'.symm, flags.trans flags'.symm, shown, off, named⟩, ?_⟩
  rw [Arguments.value, values']
  rfl

/-- A class for the directory to work in is printed and written alike. -/
theorem park_class_agrees : (parkRun filingWords).1.ending = .code 0 ∧
    Agree (parkRun printingWords).1 (parkRun filingWords).1 (parkRun filingWords).2
      ["work", sourceName "Root"] := by
  obtain ⟨a, b, printing, filing, same, className⟩ := same_request
  have fresh : Fresh "1-1" park := ⟨by decide, by decide +kernel⟩
  have ended : (parkRun filingWords).1.ending = .code 0 := by decide +kernel
  have printed : lineOf printingWords = (.generate, printingWords) := by decide
  have filed : lineOf filingWords = (.generate, filingWords) := by decide
  have expanded : (ofText ".").expandHome ⟨"home", []⟩ = .ok ⟨.here, []⟩ := by decide
  have leads : park.place (toText ⟨.here, []⟩) = .ok ["work"] := by decide
  have present : park.entry? ["work"] = some .directory := by decide
  have free : park.entry? ["work", sourceName "Root"] ≠ some .directory := by decide +kernel
  have fits : Fits ⟨.here, []⟩ (stagingName "1-1" (sourceName "Root")) := ⟨by decide, by decide⟩
  have name : (b.value 1).text = "Root" := congrArg Given.text className
  have agree := printed_as_written same fresh printed printing filed filing rfl rfl expanded leads present
    (by decide) (name ▸ free) (name ▸ fits)
  rw [name] at agree
  exact ⟨ended, agree⟩

/-- A way to the directory that goes there and back over and over. -/
def roundabout : Text := (List.replicate 16 (wide ++ "/../")).flatten ++ wide

/-- A class name for which the name of the file takes 256 bytes. -/
def stretched : Text := List.replicate 251 (.scalar 'a')

/-- A directory at the end of a way that is too long, and a file with a name that is: either
source can be printed but not written. -/
theorem long_names_part :
    (park.follow park.working (ofText roundabout).steps = .ok ["work", wide] ∧
      park.entry? ["work", wide] = some .directory ∧ IsPrintable roundabout ∧
      park.entry? ["work", wide, "Root.java"] = none ∧
      ¬ Agree (parkRun ["s.json", "Root", "-o", roundabout, "--stdout"]).1
        (parkRun ["s.json", "Root", "-o", roundabout]).1 (parkRun ["s.json", "Root", "-o", roundabout]).2
        ["work", wide, "Root.java"]) ∧
    (park.place "." = .ok ["work"] ∧ park.entry? ["work"] = some .directory ∧ stretched.isIdentifier = true ∧
      park.entry? ["work", sourceName stretched] = none ∧
      ¬ Agree (parkRun ["s.json", stretched, "--stdout"]).1 (parkRun ["s.json", stretched]).1
        (parkRun ["s.json", stretched]).2 ["work", sourceName stretched]) := by
  have apart : ∀ {shown written : Command.Run} {after file}, shown.ending = .code 0 →
      written.ending = .code 1 → ¬ Agree shown written after file := by
    intro shown written after file well bad agree
    cases well.symm.trans (agree.ending.trans bad)
  refine ⟨⟨by decide +kernel, by decide +kernel, by decide +kernel, by decide +kernel, ?_⟩,
    by decide +kernel, by decide +kernel, by decide +kernel, by decide +kernel, ?_⟩
  · exact apart (by decide +kernel) (by decide +kernel)
  · exact apart (by decide +kernel) (by decide +kernel)

end ClassMold.PrintedAsWritten
