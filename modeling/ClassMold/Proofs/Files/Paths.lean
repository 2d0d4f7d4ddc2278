import ClassMold.Files.Home
import ClassMold.Proofs.Source.Parts

/-! Paths and their texts. A path in normal form can be read back from its text, so a text
of a path that the program has put together leads where its steps lead. All paths
of the program are of that kind, the one of a source file and those beside it included. -/
namespace ClassMold.Paths
open ClassMold.Path Parts

/-- A text that can be a step of a path. -/
def IsStep (step : Text) : Prop := step ≠ [] ∧ step ≠ "." ∧ separator ∉ step

/-- A path all of whose steps can be read back from its text. -/
def IsNormal (p : Path) : Prop := ∀ step ∈ p.steps, IsStep step

variable {p q : Path} {t name : Text} {steps part : List Text} {start : PathStart}

/-! ### From texts to paths and back -/

theorem split_plain {c : CodePoint} (t : Text) : ∀ part ∈ Text.splitAll c t, c ∉ part := by
  induction t with
  | nil => simp [Text.splitAll]
  | cons d t ih =>
    rw [Text.splitAll]
    split
    · exact List.forall_mem_cons.mpr ⟨List.not_mem_nil, ih⟩
    · rename_i other
      split
      · simp [Ne.symm other]
      · rename_i first rest split
        rw [split] at ih
        obtain ⟨plain, others⟩ := List.forall_mem_cons.mp ih
        exact List.forall_mem_cons.mpr ⟨by simp [Ne.symm other, plain], others⟩

theorem of_text_normal (t : Text) : IsNormal (ofText t) := by
  intro step listed
  obtain ⟨found, kept⟩ := List.mem_filter.mp listed
  obtain ⟨nonempty, other⟩ := Bool.and_eq_true_iff.mp kept
  exact ⟨of_decide_eq_true nonempty, of_decide_eq_true other, split_plain t step found⟩

theorem split_steps (some : steps ≠ []) (plain : ∀ step ∈ steps, separator ∉ step) :
    Text.splitAll separator (Text.joinWith [separator] steps) = steps := by
  induction steps using Text.joinWith.induct with
  | case1 => exact absurd rfl some
  | case2 step => exact split_whole (plain step List.mem_cons_self)
  | case3 step rest nonempty ih =>
    obtain ⟨first, others⟩ := List.forall_mem_cons.mp plain
    have shape : Text.joinWith [separator] (step :: rest) =
        step ++ separator :: Text.joinWith [separator] rest := by
      rw [Text.joinWith]
      · simp
      · assumption
    rw [shape, split_part first, ih (by simpa using nonempty) others]

/-- The text of some steps does not start with a separator. -/
theorem joined_start (some : steps ≠ []) (each : ∀ step ∈ steps, IsStep step) :
    ∃ c rest, Text.joinWith [separator] steps = c :: rest ∧ c ≠ separator := by
  cases steps with
  | nil => exact absurd rfl some
  | cons step others =>
    obtain ⟨nonempty, -, plain⟩ := each step List.mem_cons_self
    obtain ⟨c, more, rfl⟩ := List.exists_cons_of_ne_nil nonempty
    have other : c ≠ separator := fun same => plain (by simp [same])
    cases others with
    | nil => exact ⟨c, more, rfl, other⟩
    | cons next rest => exact ⟨c, _, rfl, other⟩

theorem split_start (start : PathStart) (t : Text) :
    (Text.splitAll separator (startText start ++ t)).filter (fun step => step ≠ [] && step ≠ ".") =
      (Text.splitAll separator t).filter (fun step => step ≠ [] && step ≠ ".") := by
  cases start <;> simp [startText, Text.ofString, Text.splitAll, separator]

theorem start_read (some : steps ≠ []) (each : ∀ step ∈ steps, IsStep step) :
    startOf (startText start ++ Text.joinWith [separator] steps) = start := by
  obtain ⟨c, rest, shape, other⟩ := joined_start some each
  rw [separator] at other
  rw [shape]
  cases start with
  | here => simp [startText, startOf, other]
  | root => simp [startText, Text.ofString, startOf, other]
  | doubleRoot => simp [startText, Text.ofString, startOf, other]

theorem to_text_some (start : PathStart) (some : steps ≠ []) :
    toText ⟨start, steps⟩ = startText start ++ Text.joinWith [separator] steps := by
  cases start with
  | here =>
    cases steps with
    | nil => exact absurd rfl some
    | cons step rest => rfl
  | root => rfl
  | doubleRoot => rfl

/-- A path in normal form is read back from its text. -/
theorem of_text_to_text (normal : IsNormal p) : ofText p.toText = p := by
  obtain ⟨start, steps⟩ := p
  cases steps with
  | nil => cases start <;> decide
  | cons step rest =>
    have all : (step :: rest).filter (fun step => step ≠ [] && step ≠ Text.ofString ".") =
        step :: rest :=
      List.filter_eq_self.mpr fun part listed => by
        obtain ⟨nonempty, other, -⟩ := normal part listed
        simp [nonempty, other]
    rw [to_text_some start (List.cons_ne_nil _ _), ofText, start_read (List.cons_ne_nil _ _) normal, split_start,
      split_steps (List.cons_ne_nil _ _) fun part listed => (normal part listed).2.2, all]

/-! ### One step more -/

/-- The path to something in a directory. -/
def inside (directory : Path) (name : Text) : Path := ⟨directory.start, directory.steps ++ [name]⟩

theorem inside_normal (normal : IsNormal p) (step : IsStep name) : IsNormal (inside p name) :=
  List.forall_mem_append.mpr ⟨normal, by simpa using step⟩

theorem inside_parent (p : Path) (name : Text) : (inside p name).parent = p := by
  simp [inside, parent]

/-- What stands in the text of a path in front of one more step. -/
def lead (p : Path) : Text :=
  match p.steps with
  | [] => startText p.start
  | steps => startText p.start ++ Text.joinWith [separator] steps ++ [separator]

theorem join_step (some : steps ≠ []) (name : Text) :
    Text.joinWith [separator] (steps ++ [name]) =
      Text.joinWith [separator] steps ++ [separator] ++ name := by
  induction steps using Text.joinWith.induct with
  | case1 => exact absurd rfl some
  | case2 step => simp [Text.joinWith]
  | case3 step rest nonempty ih =>
    have more : rest ≠ [] := by simpa using nonempty
    have longer : ∀ others, Text.joinWith [separator] (step :: others) =
        if others = [] then step else step ++ [separator] ++ Text.joinWith [separator] others := by
      rintro (- | ⟨next, others⟩) <;> simp [Text.joinWith]
    rw [List.cons_append, longer, if_neg (by simp), ih more, longer, if_neg more]
    simp only [List.append_assoc]

theorem inside_text (p : Path) (name : Text) : (inside p name).toText = lead p ++ name := by
  obtain ⟨start, steps⟩ := p
  cases steps with
  | nil => cases start <;> simp [inside, toText, lead, Text.joinWith, startText]
  | cons step rest =>
    rw [inside, to_text_some start (by simp), join_step (List.cons_ne_nil _ _)]
    simp [lead]

theorem lead_part {c : CodePoint} (listed : c ∈ lead p) : c = separator ∨ c ∈ p.toText := by
  obtain ⟨start, steps⟩ := p
  cases steps with
  | nil =>
    cases start <;> simp_all [lead, startText, Text.ofString, separator]
  | cons step rest =>
    simp only [lead, ← to_text_some start (List.cons_ne_nil step rest)] at listed
    rcases List.mem_append.mp listed with inside | last
    · exact .inr inside
    · exact .inl (List.mem_singleton.mp last)

/-! ### The paths of a run -/

variable {homes : Homes} {outputDir className : Text} {target : Path}

theorem expand_normal (normal : IsNormal p) (expanded : p.expandHome homes = .ok q) : IsNormal q := by
  unfold expandHome at expanded
  split at expanded
  · rename_i user rest _ steps
    cases found : homes.find user with
    | error e => simp [found, Except.map] at expanded
    | ok home =>
      simp only [found, Except.map, Except.ok.injEq] at expanded
      subst expanded
      rw [IsNormal, steps] at normal
      exact List.forall_mem_append.mpr
        ⟨of_text_normal home, (List.forall_mem_cons.mp normal).2⟩
  · cases expanded
    exact normal

/-- The name of the source file of a class. -/
def sourceName (className : Text) : Text := className ++ ".java"

/-- The name of the source file of a class is a step. -/
theorem source_name_step (legal : className.isIdentifier = true) : IsStep (sourceName className) := by
  unfold sourceName
  refine ⟨by simp [Text.ofString], fun same => ?_, fun listed => ?_⟩
  · have lengths := congrArg List.length same
    simp [Text.ofString] at lengths
  · have word := Alphabet.identifier_word legal
    rcases List.mem_append.mp listed with inside | ending
    · exact absurd (word _ inside) (by decide)
    · exact absurd ending (by decide)

/-- The source file of a class stands in the output directory, under the name of the class. -/
theorem source_path_ok_iff (legal : className.isIdentifier = true) :
    sourcePath homes outputDir className = .ok target ↔ ∃ directory,
      (ofText outputDir).expandHome homes = .ok directory ∧ target = inside directory (sourceName className) := by
  have alone : IsNormal ⟨.here, [sourceName className]⟩ := by
    simpa [IsNormal] using source_name_step legal
  have single : ofText (className ++ Text.ofString ".java") = ⟨.here, [sourceName className]⟩ := by
    rw [← of_text_to_text alone]
    rfl
  unfold sourcePath
  cases (ofText outputDir).expandHome homes with
  | error e => simp [Except.map]
  | ok directory => simpa [Except.map, single, append, inside] using eq_comm

end ClassMold.Paths
