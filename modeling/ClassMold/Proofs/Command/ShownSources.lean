import ClassMold.Proofs.Command.Endings
import ClassMold.Proofs.Sample.LineEnds
import ClassMold.Proofs.Source.PrintableSources

/-! When the source for a sample can be printed. The name has to be an identifier, and of the file
it takes the bytes of a text, a JSON document in it without too long integers, an object where the
first elements of its lists lead, and keys that can be printed in all classes of the tree. Nothing
else can go wrong, and what does go wrong is told in one line. -/
namespace ClassMold.ShownSources
open ClassMold.Path Command Seen Generated Views Printable Accepted LastMembers Documents Endings
open PrintableSources

variable {homes : Homes} {mark className t : Text} {tree after : FileTree} {path : Path} {content : Bytes}
  {words rest : List Text} {a : Arguments} {shown : Command.Run} {options : OutputOptions} {sample : Sample}
  {c : ClassTree} {error : SampleFileError}

/-- The bytes of a file are a JSON document without too long integers, and this is written there. -/
def Holds (content : Bytes) (written : Sample) : Prop :=
  ∃ t, Utf8.encode t = .ok content ∧ IsDocument t written ∧ FewDigits written

/-- A tree whose source can be printed comes of what a file holds. -/
structure Sourced (className : Text) (content : Bytes) (c : ClassTree) : Prop where
  inferred : ∃ written, Holds content written ∧ (∃ members, written.tip = .object members) ∧
    (inferClass className 0 (kept written)).outcome = .ok c
  keys : ∀ d ∈ c.walk, KeysPrintable d

/-- Why no source can be printed for what a file holds, and the error that says so. -/
inductive Refused (className : Text) (options : OutputOptions) (content : Bytes) :
    GenerationError → Prop where
  | noText {e : Utf8.DecodeError} (none : ¬ ∃ t, Utf8.encode t = .ok content)
      (stops : Utf8.decode content = .error e) : Refused className options content (.input (.undecodable e))
  | noDocument {t : Text} {e : Sample.ReadError} (text : Utf8.encode t = .ok content)
      (none : ¬ ∃ written, Holds content written) (stops : Sample.read t.unifyLineEnds = .error e) :
      Refused className options content (.input (.malformed e))
  | noObject {written : Sample} {e : InferenceError} (held : Holds content written)
      (none : ¬ ∃ members, written.tip = .object members)
      (stops : (inferClass className 0 (kept written)).outcome = .error e) :
      Refused className options content (.inference e)
  | unprintable {written : Sample} {c : ClassTree} {e : Utf8.EncodeError} (held : Holds content written)
      (inferred : (inferClass className 0 (kept written)).outcome = .ok c)
      (key : ∃ d ∈ c.walk, ∃ f ∈ d.fields, ¬ IsPrintable f.key)
      (stops : Utf8.encode (c.renderFile options) = .error e) :
      Refused className options content (.output (.unencodable e))

/-- What a run that is to print a source shows, for a class name and what the file holds. -/
structure Answers (given : Given) (options : OutputOptions) (content : Bytes) (shown : Command.Run) : Prop where
  /-- It ends well exactly if there is a source to print. -/
  well : shown.ending = .code 0 ↔ given.text.isIdentifier = true ∧ ∃ c, Sourced given.text content c
  /-- Then it prints the source. -/
  source : ∀ c, given.text.isIdentifier = true → Sourced given.text content c →
    shown.transcript.output = c.renderFile options
  noName : given.text.isIdentifier = false →
    shown.ending = .code 2 ∧ shown.transcript.output = nameComplaint given ++ "\n"
  refused : given.text.isIdentifier = true → (¬ ∃ c, Sourced given.text content c) →
    shown.ending = .code 1 ∧ ∃ e, Refused given.text options content e ∧
      shown.transcript.output = e.message ++ "\n"

/-! ### What files hold -/

theorem of_bytes_iff : Sample.ofBytes content = .ok sample ↔
    ∃ written, Holds content written ∧ kept written = sample := by
  simp only [of_bytes_ok_iff, Encoded.decode_iff_encode, read_iff_written, LineEnds.document_unified, Holds]
  constructor
  · rintro ⟨t, text, written, document, few, same⟩
    exact ⟨written, ⟨t, text, document, few⟩, same⟩
  · rintro ⟨written, ⟨t, text, document, few⟩, same⟩
    exact ⟨t, text, written, document, few, same⟩

/-- A file without a sample holds no document, or it holds no text at all. -/
theorem of_bytes_refused (options : OutputOptions) (stops : Sample.ofBytes content = .error error) :
    Refused className options content (.input error) := by
  have none : ¬ ∃ written, Holds content written := by
    rintro ⟨written, held⟩
    cases stops.symm.trans (of_bytes_iff.mpr ⟨written, held, rfl⟩)
  rcases of_bytes_error_iff.mp stops with ⟨e, decoded, rfl⟩ | ⟨t, e, decoded, read, rfl⟩
  · refine .noText ?_ decoded
    rintro ⟨t, text⟩
    cases decoded.symm.trans ((Encoded.decode_iff_encode content t).mpr text)
  · exact .noDocument ((Encoded.decode_iff_encode content t).mp decoded) none read

theorem held_read {written : Sample} (held : Holds content written) :
    Sample.ofBytes content = .ok (kept written) := of_bytes_iff.mpr ⟨written, held, rfl⟩

theorem held_same {written other : Sample} (held : Holds content written) (heldToo : Holds content other) :
    kept written = kept other :=
  Except.ok.inj ((held_read held).symm.trans (held_read heldToo))

/-- A tree comes of what a file holds exactly if its first elements lead to an object. -/
theorem held_inferred_iff {written : Sample} (held : Holds content written) :
    (∃ c, (inferClass className 0 (kept written)).outcome = .ok c) ↔
      ∃ members, written.tip = .object members := by
  obtain ⟨t, -, document, few⟩ := held
  have read := (read_iff_written t _).mpr ⟨written, document, few, rfl⟩
  exact (JsonKinds.json_inferred_iff (JsonKinds.sample_json read) className 0).trans (kept_tip_object written)

theorem sourced_inferred {written : Sample} (held : Holds content written)
    (sourced : Sourced className content c) : (inferClass className 0 (kept written)).outcome = .ok c := by
  obtain ⟨⟨other, heldToo, -, inferred⟩, -⟩ := sourced
  rwa [held_same held heldToo]

/-! ### What is seen -/

/-- A source is printed, or the run stops with a reason that is told. -/
inductive Tells (className : Text) (options : OutputOptions) (content : Bytes) : Sight Nat → Prop where
  | source {c : ClassTree} (sourced : Sourced className content c) :
      Tells className options content ⟨.ok 0, c.renderFile options⟩
  | refused {e : GenerationError} (none : ¬ ∃ c, Sourced className content c)
      (refused : Refused className options content e) :
      Tells className options content ⟨.error (.code 1), e.message ++ "\n"⟩

theorem failed_told {α : Type} {e : GenerationError} (known : ¬ e.isHomeUnknown = true)
    (printable : IsPrintable e.message) : (failed e : Sight α) = ⟨.error (.code 1), e.message ++ "\n"⟩ := by
  rw [failed, if_neg known, said_printable printable, List.append_nil]

theorem printed_tells {written : Sample} (legal : className.isIdentifier = true) (held : Holds content written)
    (inferred : (inferClass className 0 (kept written)).outcome = .ok c) :
    Tells className options content (printed options c) := by
  have object := (held_inferred_iff held).mp ⟨c, inferred⟩
  have shown := source_printable_iff options (identifier_printable legal) inferred
  unfold printed
  cases encoded : Utf8.encode (c.renderFile options) with
  | ok bytes =>
    exact .source ⟨⟨written, held, object, inferred⟩, shown.mp (encode_ok_iff.mp ⟨bytes, encoded⟩)⟩
  | error e =>
    have lone : ¬ ∀ d ∈ c.walk, KeysPrintable d := fun keys => by
      obtain ⟨bytes, well⟩ := encode_ok_iff.mpr (shown.mpr keys)
      cases encoded.symm.trans well
    have none : ¬ ∃ c, Sourced className content c := by
      rintro ⟨d, sourced⟩
      cases inferred.symm.trans (sourced_inferred held sourced)
      exact lone sourced.keys
    have told : (failed (.output (.unencodable e)) : Sight Nat) = _ :=
      failed_told (by simp [GenerationError.isHomeUnknown]) (by simp [GenerationError.message])
    simp only [KeysPrintable, not_forall, exists_prop] at lone
    dsimp only
    rw [told]
    exact .refused none (.unprintable held inferred lone encoded)

theorem sample_at_held {input : Text} (expanded : (ofText input).expandHome homes = .ok path)
    (held : tree.read path.toText = .ok content) : sampleAt homes tree input = Sample.ofBytes content := by
  simp only [sampleAt, expanded, held]

/-- Up to the source nothing but the content of the file decides. -/
theorem inferred_tells {input : Text} (options : OutputOptions) (legal : className.isIdentifier = true)
    (expanded : (ofText input).expandHome homes = .ok path) (held : tree.read path.toText = .ok content) :
    Tells className options content
      (inferredThen (inferredAt homes tree input className).outcome (printed options)) := by
  have sampled := sample_at_held expanded held
  cases inferred : (inferredAt homes tree input className).outcome with
  | ok c =>
    obtain ⟨sample, read, ran⟩ := inferred_ok_iff.mp inferred
    obtain ⟨written, holds, rfl⟩ := of_bytes_iff.mp (sampled.symm.trans read)
    exact printed_tells legal holds ran
  | error e =>
    obtain ⟨unknown, printable⟩ := inferred_error legal inferred
    have homed : ¬ e.isHomeUnknown = true := by
      rw [unknown, ← homeless_iff, expanded]
      simp
    rw [inferredThen, failed_told homed printable]
    rcases inferred_error_iff.mp inferred with ⟨fault, read, rfl⟩ | ⟨sample, fault, read, ran, rfl⟩
    · rw [sampled] at read
      have none : ¬ ∃ c, Sourced className content c := by
        rintro ⟨c, ⟨written, holds, -⟩, -⟩
        cases read.symm.trans (held_read holds)
      exact .refused none (of_bytes_refused options read)
    · obtain ⟨written, holds, rfl⟩ := of_bytes_iff.mp (sampled.symm.trans read)
      have none : ¬ ∃ c, Sourced className content c := by
        rintro ⟨c, sourced⟩
        cases ran.symm.trans (sourced_inferred holds sourced)
      refine .refused none (.noObject holds (fun object => ?_) ran)
      obtain ⟨c, well⟩ := (held_inferred_iff holds).mpr object
      cases ran.symm.trans well

theorem tells_answers {given : Given} {sight : Sight Nat} (legal : given.text.isIdentifier = true)
    (tells : Tells given.text options content sight) (errors : Text) :
    Answers given options content ⟨endingOf sight.result, ⟨sight.output, errors⟩⟩ := by
  have named : given.text.isIdentifier ≠ false := Bool.ne_false_iff.mpr legal
  cases tells with
  | @source c sourced =>
    have same : ∀ d, Sourced given.text content d → c.renderFile options = d.renderFile options := by
      intro d other
      obtain ⟨written, holds, -, inferred⟩ := sourced.inferred
      cases inferred.symm.trans (sourced_inferred holds other)
      rfl
    exact {
      well := ⟨fun _ => ⟨legal, c, sourced⟩, fun _ => rfl⟩
      source := fun d _ other => same d other
      noName := fun illegal => absurd illegal named
      refused := fun _ none => absurd ⟨c, sourced⟩ none }
  | @refused e none refused =>
    have bad : endingOf (.error (.code 1)) ≠ .code 0 := by decide
    exact {
      well := ⟨fun well => absurd well bad, fun ⟨_, sourced⟩ => absurd sourced none⟩
      source := fun c _ sourced => absurd ⟨c, sourced⟩ none
      noName := fun illegal => absurd illegal named
      refused := fun _ _ => ⟨rfl, e, refused, rfl⟩ }

theorem illegal_answers {given : Given} (illegal : ¬ given.text.isIdentifier = true) (errors : Text) :
    Answers given options content ⟨.code 2, ⟨nameComplaint given ++ "\n", errors⟩⟩ where
  well := ⟨nofun, fun ⟨legal, _⟩ => absurd legal illegal⟩
  source := fun _ legal => absurd legal illegal
  noName := fun _ => ⟨rfl, rfl⟩
  refused := fun legal => absurd legal illegal

/-- A run that is to print the source for a file that can be read ends well exactly if the class name
is an identifier, the file holds a document that leads to an object, and the keys of the tree that
comes of it can be printed. Then it prints the source. Otherwise it ends with 2 for a bad name and
with 1 for whatever else is wrong, and prints one complaint. Files are left as they are. -/
theorem source_shown_iff (line : lineOf words = (.generate, rest))
    (read : Verb.generate.grammar.read rest = .ok a) (asked : a.has .stdout = true)
    (expanded : (ofText (a.value 0).text).expandHome homes = .ok path)
    (held : tree.read path.toText = .ok content)
    (ran : (Command.run (FileTree.host homes mark) words).run tree = (shown, after)) :
    Answers (a.value 1) (settled (flagsOf a)) content shown ∧ after = tree := by
  by_cases legal : (a.value 1).text.isIdentifier = true
  · have tells := inferred_tells (settled (flagsOf a)) legal expanded held
    obtain ⟨errors, same⟩ :=
      run_of_line line (runs_act read (runs_generate_stdout homes mark legal asked tree))
    cases same.symm.trans ran
    exact ⟨tells_answers legal tells errors, rfl⟩
  · obtain ⟨errors, same⟩ := run_of_line line (runs_act read (runs_generate_illegal homes mark legal tree))
    cases same.symm.trans ran
    exact ⟨illegal_answers legal errors, rfl⟩

/-- The bytes of a text in plain letters. -/
def plainBytes (t : Text) : Bytes := t.map fun c => .ofNat c.val

/-- A document with a lone surrogate in an object that no class is made of. -/
def hiddenKey : Bytes := plainBytes "\x7b\"String\": \x7b\"\\ud800\": 1\x7d\x7d"

/-- A document with a lone surrogate in the key of a field. -/
def openKey : Bytes := plainBytes "\x7b\"\\ud800\": 1\x7d"

/-- A directory to work in with both documents. -/
def cellar : FileTree where
  working := ["work"]
  entries := [(["work"], .directory), (["work", "h.json"], .file hiddenKey),
    (["work", "o.json"], .file openKey)]

/-- The words for the source of a sample. -/
def sourceWords (input : Text) : List Text := [input, "Root", "--getters", "--stdout"]

/-- What comes of them there. -/
def cellarRun (input : Text) : Command.Run × FileTree :=
  (Command.run (FileTree.host ⟨"home", []⟩ "1-1") (sourceWords input)).run cellar

/-- The first document has a source and the second one has none. -/
theorem cellar_sources : (cellarRun "h.json").1.ending = .code 0 ∧ (∃ c, Sourced "Root" hiddenKey c) ∧
    (cellarRun "o.json").1.ending = .code 1 ∧ ¬ ∃ c, Sourced "Root" openKey c := by
  have answers (input : Text) (path : Path) (content : Bytes)
      (line : lineOf (sourceWords input) = (.generate, sourceWords input))
      (asked : (Verb.generate.grammar.read (sourceWords input)).toOption.map
        (fun a => (a.values, a.has .stdout)) = some ([.word input, .word "Root"], true))
      (expanded : (ofText input).expandHome ⟨"home", []⟩ = .ok path)
      (held : cellar.read path.toText = .ok content) :
      ∃ options, Answers (.word "Root") options content (cellarRun input).1 := by
    obtain ⟨a, read, same⟩ := ok_of_asked asked
    obtain ⟨values, shows⟩ := Prod.mk.inj same
    have sample : a.value 0 = .word input := by rw [Arguments.value, values]; rfl
    have name : a.value 1 = .word "Root" := by rw [Arguments.value, values]; rfl
    have shown : Answers (a.value 1) (settled (flagsOf a)) content (cellarRun input).1 :=
      (source_shown_iff line read shows (by rw [sample]; exact expanded) held rfl).1
    rw [name] at shown
    exact ⟨_, shown⟩
  have legal : Text.isIdentifier "Root" = true := by decide +kernel
  have hiddenEnds : (cellarRun "h.json").1.ending = .code 0 := by decide +kernel
  have openEnds : (cellarRun "o.json").1.ending = .code 1 := by decide +kernel
  obtain ⟨_, hidden⟩ := answers "h.json" ⟨.here, ["h.json"]⟩ hiddenKey (by decide)
    (by decide +kernel) (by decide) (by decide +kernel)
  obtain ⟨_, opened⟩ := answers "o.json" ⟨.here, ["o.json"]⟩ openKey (by decide)
    (by decide +kernel) (by decide) (by decide +kernel)
  refine ⟨hiddenEnds, (hidden.well.mp hiddenEnds).2, openEnds, fun sourced => ?_⟩
  cases openEnds.symm.trans (opened.well.mpr ⟨legal, sourced⟩)

end ClassMold.ShownSources
