import ClassMold.Proofs.Command.Views
import ClassMold.Proofs.Inference.Outlines

/-! What inspecting prints is the model. The text is one document that the reader of samples
reads back as the outline of the class tree that was inferred, and the outline tells the tree,
so two trees are never printed alike. -/
namespace ClassMold.Inspected
open Growth Command Seen Generated Views Printable Spelling Values RoundTrip Outlines

variable {homes homes' : Homes} {mark mark' input input' className className' t : Text}
  {tree tree' : FileTree} {words words' : List Text} {shown shown' : Command.Run} {bytes : Bytes}
  {sample : Sample} {c : ClassTree}

/-! ### Samples from files -/

/-- To make line ends one kind puts no surrogates. -/
theorem unified_printable (printable : IsPrintable t) : IsPrintable t.unifyLineEnds := by
  induction t using Text.unifyLineEnds.induct with
  | case1 => exact printable
  | case2 rest ih =>
    rw [Text.unifyLineEnds, printable_cons]
    exact ⟨rfl, ih (printable_cons.mp (printable_cons.mp printable).2).2⟩
  | case3 rest single ih =>
    rw [Text.unifyLineEnds.eq_3 rest single, printable_cons]
    exact ⟨rfl, ih (printable_cons.mp printable).2⟩
  | case4 c rest noPair noReturn ih =>
    rw [Text.unifyLineEnds.eq_4 c rest noPair noReturn, printable_cons]
    exact ⟨(printable_cons.mp printable).1, ih (printable_cons.mp printable).2⟩

/-- The sample in a file has whole keys. -/
theorem sample_whole (found : sampleAt homes tree input = .ok sample) : IsValue Whole sample := by
  obtain ⟨_, content, -, -, read⟩ := sample_ok_iff.mp found
  obtain ⟨t, decoded, read⟩ := of_bytes_ok_iff.mp read
  exact read_value read (whole_spelled (unified_printable (decode_printable decoded)))

/-! ### Runs -/

/-- A run inspects a sample under a class name and ends well. -/
structure Inspects (homes : Homes) (mark : Text) (tree : FileTree) (words : List Text)
    (input className : Text) (shown : Command.Run) : Prop where
  asked : ∃ rest a, lineOf words = (.inspect, rest) ∧ Verb.inspect.grammar.read rest = .ok a ∧
    (a.value 0).text = input ∧ (a.value 1).text = className
  ran : ((Command.run (FileTree.host homes mark) words).run tree).1 = shown
  well : shown.ending = .code 0

/-- What such a run prints is the outline of the class of its sample, and the outline is writable. -/
theorem inspected_outline (inspects : Inspects homes mark tree words input className shown) :
    ∃ sample c, sampleAt homes tree input = .ok sample ∧ (inferClass className 0 sample).outcome = .ok c ∧
      className.isIdentifier = true ∧ c.outline.isWritable = true ∧
      shown.transcript.output = c.outline.pretty Text.asciiLiteral 0 ++ "\n" := by
  obtain ⟨⟨rest, a, line, read, rfl, rfl⟩, rfl, well⟩ := inspects
  by_cases legal : (a.value 1).text.isIdentifier = true
  · obtain ⟨errors, ran⟩ := run_of_line line (runs_act read (runs_inspect homes mark legal tree))
    rw [ran] at well ⊢
    cases inferred : (inferredAt homes tree (a.value 0).text (a.value 1).text).outcome with
    | error e =>
      rw [inferred] at well
      exact absurd well (fails_ending (failed_fails e))
    | ok c =>
      obtain ⟨sample, found, inferring⟩ := inferred_ok_iff.mp inferred
      by_cases writable : c.outline.isWritable = true
      · refine ⟨sample, c, found, inferring, legal, writable, ?_⟩
        simp [inferredThen, outlined, writable, said_printable (ascii_document_printable c.outline 0)]
      · simp only [inferred, inferredThen, outlined, if_neg writable] at well
        cases well
  · obtain ⟨errors, ran⟩ := run_of_line line (runs_act read (runs_inspect_illegal homes mark legal tree))
    rw [ran] at well
    cases well

theorem outline_read (legal : className.isIdentifier = true) (found : sampleAt homes tree input = .ok sample)
    (inferring : (inferClass className 0 sample).outcome = .ok c) (writable : c.outline.isWritable = true) :
    Sample.read (c.outline.pretty Text.asciiLiteral 0 ++ "\n") = .ok (sampleOf c.outline) := by
  have named := printable_whole (identifier_printable legal)
  have tellable := inferred_tellable (sample_whole found) named inferring
  exact printed_document_read (outline_readable tellable writable) 0

/-- What a run prints that inspects a sample and ends well is read back as the outline of the class
tree of that sample. The outline tells the tree, so no other tree is printed by the same text. -/
theorem inspect_prints_model (inspects : Inspects homes mark tree words input className shown) :
    ∃ sample c, sampleAt homes tree input = .ok sample ∧ (inferClass className 0 sample).outcome = .ok c ∧
      Sample.read shown.transcript.output = .ok (sampleOf c.outline) ∧
      treeOf? (sampleOf c.outline) = some c ∧
      ∀ homes' mark' tree' words' input' className' shown',
        Inspects homes' mark' tree' words' input' className' shown' →
        shown'.transcript.output = shown.transcript.output →
        ∃ sample', sampleAt homes' tree' input' = .ok sample' ∧
          (inferClass className' 0 sample').outcome = .ok c := by
  obtain ⟨sample, c, found, inferring, legal, writable, printed⟩ := inspected_outline inspects
  have read := outline_read legal found inferring writable
  rw [← printed] at read
  refine ⟨sample, c, found, inferring, read, tree_told c, ?_⟩
  intro homes' mark' tree' words' input' className' shown' inspects' same
  obtain ⟨sample', d, found', inferring', legal', writable', printed'⟩ := inspected_outline inspects'
  have again := outline_read legal' found' inferring' writable'
  rw [← printed', same] at again
  have alike : sampleOf c.outline = sampleOf d.outline := Except.ok.inj (read.symm.trans again)
  have told : some c = some d := by rw [← tree_told c, ← tree_told d, alike]
  cases told
  exact ⟨sample', found', inferring'⟩

/-- A directory to work in with a sample: under a key of one pair of surrogates a list with an
object, and under a key with the halves of a pair the other way round nothing. -/
def gallery : FileTree where
  working := ["work"]
  entries := [(["work"], .directory),
    (["work", "s.json"], .file ("\x7b\"\\ud83d\\ude00\": [\x7b\"a\": 1\x7d], \"\\ude00\\ud83d\": null\x7d".toList.map
      fun c => .ofNat c.toNat))]

/-- The words for the outline of that sample. -/
def galleryWords : List Text := ["inspect", "s.json", "Root"]

/-- What they come to. -/
def galleryRun : Command.Run := ((Command.run (FileTree.host ⟨"home", []⟩ "1-1") galleryWords).run gallery).1

theorem gallery_inspects : Inspects ⟨"home", []⟩ "1-1" gallery galleryWords "s.json" "Root" galleryRun where
  asked := by
    have reads : (Verb.inspect.grammar.read ["s.json", "Root"]).toOption.map (·.values) =
        some [.word "s.json", .word "Root"] := by decide +kernel
    obtain ⟨a, read, values⟩ := ok_of_asked reads
    refine ⟨_, a, by decide, read, ?_, ?_⟩ <;> rw [Arguments.value, values] <;> rfl
  ran := rfl
  well := by decide +kernel

/-- The outline of that sample is read back with the keys that the reader made of it. -/
theorem gallery_outline_read : ∃ c, Sample.read galleryRun.transcript.output = .ok (sampleOf c.outline) ∧
    treeOf? (sampleOf c.outline) = some c ∧
    c.fields.map Field.key = [[.scalar '😀'], [.ofNat 0xDE00, .ofNat 0xD83D]] := by
  obtain ⟨sample, c, found, inferring, read, told, -⟩ := inspect_prints_model gallery_inspects
  refine ⟨c, read, told, ?_⟩
  have keys : (inferredAt ⟨"home", []⟩ gallery "s.json" "Root").outcome.toOption.map
      (fun c => c.fields.map Field.key) = some [[.scalar '😀'], [.ofNat 0xDE00, .ofNat 0xD83D]] := by
    decide +kernel
  rw [inferred_ok_iff.mpr ⟨sample, found, inferring⟩] at keys
  exact Option.some.inj keys

end ClassMold.Inspected
