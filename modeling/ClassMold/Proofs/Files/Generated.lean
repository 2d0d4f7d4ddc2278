import ClassMold.Proofs.Files.Staging
import ClassMold.Proofs.Inference.Mirroring

/-! What generating a source file does to a tree. Reading and inferring leave it as it is;
after that the source is put in its place as a whole, or no file is touched. -/
namespace ClassMold.Generated
open ClassMold.Path Paths Growth Staging

variable {tree before after : FileTree} {homes : Homes} {mark input className outputDir : Text}
  {options : OutputOptions} {c : ClassTree}

/-! ### Errors inside others -/

section Wrapped

variable {ε δ α : Type} {outcome : Except ε α} {wrap : ε → δ}

@[simp] theorem map_error_ok_iff {value : α} : outcome.mapError wrap = .ok value ↔ outcome = .ok value := by
  cases outcome <;> simp [Except.mapError]

@[simp] theorem map_error_error_iff {error : δ} :
    outcome.mapError wrap = .error error ↔ ∃ fault, outcome = .error fault ∧ wrap fault = error := by
  cases outcome <;> simp [Except.mapError]

@[simp] theorem wrapped_outcome (wrap : ε → δ) (step : Reported ε α) :
    (step.wrapError wrap).outcome = step.outcome.mapError wrap := rfl

end Wrapped

/-! ### From a sample file to a class tree -/

/-- The sample in some bytes is read from the text that they hold. -/
theorem of_bytes_ok_iff {content : Bytes} {sample : Sample} : Sample.ofBytes content = .ok sample ↔
    ∃ t, Utf8.decode content = .ok t ∧ Sample.read t.unifyLineEnds = .ok sample := by
  unfold Sample.ofBytes
  cases Utf8.decode content <;> simp

theorem of_bytes_error_iff {content : Bytes} {error : SampleFileError} :
    Sample.ofBytes content = .error error ↔
      (∃ e, Utf8.decode content = .error e ∧ .undecodable e = error) ∨
        ∃ t e, Utf8.decode content = .ok t ∧ Sample.read t.unifyLineEnds = .error e ∧ .malformed e = error := by
  unfold Sample.ofBytes
  cases Utf8.decode content <;> simp

/-- The sample in a file of a tree. -/
def sampleAt (homes : Homes) (tree : FileTree) (path : Text) : Except SampleFileError Sample :=
  match (ofText path).expandHome homes with
  | .error e => .error (.homeless e)
  | .ok p =>
    match tree.read p.toText with
    | .error e => .error (.unreadable e)
    | .ok content => Sample.ofBytes content

/-- What is inferred from the sample in a file of a tree. -/
def inferredAt (homes : Homes) (tree : FileTree) (input className : Text) :
    Reported GenerationError ClassTree :=
  match sampleAt homes tree input with
  | .error e => .quietly (.error (.input e))
  | .ok sample => (inferClass className 0 sample).wrapError .inference

theorem sample_ok_iff {sample : Sample} : sampleAt homes tree input = .ok sample ↔ ∃ path content,
    (ofText input).expandHome homes = .ok path ∧ tree.read path.toText = .ok content ∧
      Sample.ofBytes content = .ok sample := by
  unfold sampleAt
  cases (ofText input).expandHome homes with
  | error e => simp
  | ok path =>
    dsimp only
    cases read : tree.read path.toText <;> simp [read]

theorem read_sample_run (homes : Homes) (mark : Text) (tree : FileTree) (path : Text) :
    (readSample (FileTree.host homes mark) path).run tree = (sampleAt homes tree path, tree) := by
  unfold readSample sampleAt
  rw [host_homes]
  cases (ofText path).expandHome homes with
  | error e => rfl
  | ok p =>
    have looked : ((FileTree.host homes mark).read p.toText).run tree = (tree.read p.toText, tree) := rfl
    refine (run_bind_of looked).trans ?_
    cases read : tree.read p.toText <;> simp only [read] <;> rfl

theorem infer_file_run (homes : Homes) (mark : Text) (tree : FileTree) (input className : Text) :
    (inferFile (FileTree.host homes mark) input className).run tree =
      (inferredAt homes tree input className, tree) := by
  unfold inferFile inferredAt
  refine (run_bind_of (read_sample_run homes mark tree input)).trans ?_
  cases sampleAt homes tree input <;> rfl

/-- A class tree comes of a sample in the file, and its root has the name asked for. -/
theorem inferred_ok_iff : (inferredAt homes tree input className).outcome = .ok c ↔
    ∃ sample, sampleAt homes tree input = .ok sample ∧ (inferClass className 0 sample).outcome = .ok c := by
  unfold inferredAt
  cases sampleAt homes tree input with
  | error e => simp
  | ok sample => simp

theorem inferred_error_iff {e : GenerationError} : (inferredAt homes tree input className).outcome = .error e ↔
    (∃ fault, sampleAt homes tree input = .error fault ∧ .input fault = e) ∨
      ∃ sample fault, sampleAt homes tree input = .ok sample ∧
        (inferClass className 0 sample).outcome = .error fault ∧ .inference fault = e := by
  unfold inferredAt
  cases sampleAt homes tree input <;> simp

theorem inferred_name (inferred : (inferredAt homes tree input className).outcome = .ok c) :
    c.name = className := by
  obtain ⟨sample, -, ran⟩ := inferred_ok_iff.mp inferred
  exact (Mirroring.class_name_depth ran).1

/-! ### The source file -/

theorem write_source_run {reported : Reported SourceFileError Path} (legal : c.name.isIdentifier = true)
    (fresh : Fresh mark before)
    (ran : (writeSource (FileTree.host homes mark) c outputDir options).run before = (reported, after)) :
    (∃ e, reported.outcome = .error e ∧ SameFiles before after) ∨
      ∃ target bytes place, reported.outcome = .ok target ∧
        sourcePath homes outputDir c.name = .ok target ∧
          Utf8.encode (c.renderFile options) = .ok bytes ∧ Placed target bytes place before after := by
  unfold writeSource at ran
  rw [host_homes] at ran
  cases found : sourcePath homes outputDir c.name with
  | error e =>
    rw [found] at ran
    cases ran
    exact .inl ⟨_, rfl, fun _ _ => .rfl⟩
  | ok target =>
    rw [found] at ran
    obtain ⟨made, middle, making, rest⟩ := run_bind_iff.mp ran
    have grown := create_directories_grows making
    cases made with
    | error e =>
      cases rest
      exact .inl ⟨_, rfl, fun _ _ => grown_file grown⟩
    | ok _ =>
      obtain ⟨replaced, later, replacing, last⟩ := run_bind_iff.mp rest
      have noFile : ∀ place content, middle.place (stagingPath mark target).toText = .ok place →
          middle.entry? place ≠ some (.file content) := by
        intro place content leads held
        obtain ⟨directory, expanded, rfl⟩ := (source_path_ok_iff legal).mp found
        rw [staging_path_inside] at leads
        have normal := expand_normal (of_text_normal _) expanded
        have vacant := staging_free normal legal fresh leads
        cases vacant.symm.trans ((grown_file grown).mp held)
      rcases replace_file_run noFile replacing with
        ⟨e, rfl, rfl⟩ | ⟨rfl, place, bytes, leads, free, encoded, rfl⟩
      · cases last
        exact .inl ⟨_, rfl, fun _ _ => grown_file grown⟩
      · cases last
        exact .inr ⟨target, bytes, place, rfl, rfl, encoded, placed_after_growth grown leads free⟩

/-! ### From sample to source file -/

/-- Some bytes are the source of the class in a sample file. -/
def IsSource (homes : Homes) (tree : FileTree) (input className : Text) (options : OutputOptions)
    (bytes : Bytes) : Prop :=
  ∃ sample c, sampleAt homes tree input = .ok sample ∧ (inferClass className 0 sample).outcome = .ok c ∧
    Utf8.encode (c.renderFile options) = .ok bytes

theorem generate_of_error {e : GenerationError}
    (stops : (inferredAt homes tree input className).outcome = .error e) : ∃ notices,
    (generate (FileTree.host homes mark) input className outputDir options).run tree =
      (⟨notices, .error e⟩, tree) := by
  refine ⟨(inferredAt homes tree input className).notices, ?_⟩
  unfold generate
  rw [run_bind_of (infer_file_run homes mark tree input className)]
  simp only [stops]
  rfl

theorem generate_of_class {written : Reported SourceFileError Path}
    (inferred : (inferredAt homes tree input className).outcome = .ok c)
    (writing : (writeSource (FileTree.host homes mark) c outputDir options).run tree = (written, after)) :
    ∃ notices, (generate (FileTree.host homes mark) input className outputDir options).run tree =
      (⟨notices, (written.wrapError .output).outcome⟩, after) := by
  refine ⟨(inferredAt homes tree input className).notices ++ written.notices, ?_⟩
  unfold generate
  rw [run_bind_of (infer_file_run homes mark tree input className)]
  simp only [inferred]
  exact run_bind_of writing

/-- A source file is written as a whole, or no file is touched. -/
theorem generate_run {reported : Reported GenerationError Path} (legal : className.isIdentifier = true)
    (fresh : Fresh mark before)
    (ran : (generate (FileTree.host homes mark) input className outputDir options).run before =
      (reported, after)) :
    (∃ e, reported.outcome = .error e ∧ SameFiles before after) ∨
      ∃ target bytes place, reported.outcome = .ok target ∧ sourcePath homes outputDir className = .ok target ∧
        IsSource homes before input className options bytes ∧ Placed target bytes place before after := by
  cases inferred : (inferredAt homes before input className).outcome with
  | error e =>
    obtain ⟨notices, stopped⟩ := generate_of_error inferred
    cases stopped.symm.trans ran
    exact .inl ⟨e, rfl, fun _ _ => .rfl⟩
  | ok c =>
    have named := inferred_name inferred
    rw [← named] at legal
    cases writing : (writeSource (FileTree.host homes mark) c outputDir options).run before with
    | mk written left =>
      obtain ⟨notices, went⟩ := generate_of_class inferred writing
      cases went.symm.trans ran
      rcases write_source_run legal fresh writing with ⟨e, failed, same⟩ |
        ⟨target, bytes, place, wrote, path, encoded, placed⟩
      · exact .inl ⟨.output e, by simp [failed], same⟩
      · obtain ⟨sample, read, ran⟩ := inferred_ok_iff.mp inferred
        rw [named] at path
        refine .inr ⟨target, bytes, place, ?_, path, ⟨sample, c, read, ran, encoded⟩, placed⟩
        simp [wrote]

/-- Once a source file is in place, no file is left where it was staged. -/
theorem staging_gone {target : Path} {bytes : Bytes} {place led : List Text} {content : Bytes}
    (legal : className.isIdentifier = true) (fresh : Fresh mark before)
    (path : sourcePath homes outputDir className = .ok target)
    (placed : Placed target bytes place before after)
    (leads : after.place (stagingPath mark target).toText = .ok led) :
    after.entry? led ≠ some (.file content) := by
  obtain ⟨directory, expanded, rfl⟩ := (source_path_ok_iff legal).mp path
  have normal := expand_normal (of_text_normal _) expanded
  have long := source_name_long className
  have longer := staging_name_longer mark (sourceName className)
  rw [staging_path_inside] at leads
  have vacant := staging_free normal legal fresh leads
  -- Both places end with a name, and the two names differ in length.
  have apart : led ≠ place := by
    obtain ⟨above, rfl⟩ := place_inside normal (source_name_nameable legal) long placed.leads
    obtain ⟨above', rfl⟩ := place_inside normal (staging_name_nameable legal fresh)
      (Nat.lt_trans long longer) leads
    intro same
    have names := (List.append_inj' same rfl).2
    rw [(List.cons.inj names).1] at longer
    exact Nat.lt_irrefl _ longer
  rcases placed.others led apart with kept | ⟨-, made, -⟩
  · simp [kept, vacant]
  · simp [made]

end ClassMold.Generated
