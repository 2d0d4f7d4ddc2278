import ClassMold.Command.Run
import ClassMold.Proofs.Text.Printable

/-! The wordings of the program. What comes from outside is quoted or counted in them, so
they can be printed whatever it is. One place is left where it is not: the complaint about
malformed markup shows the path of the file as it is. -/
namespace ClassMold.Wording
open Command Printable

/-! ### Files -/

@[simp] theorem encode_message_printable (e : Utf8.EncodeError) : IsPrintable e.message := by
  unfold Utf8.EncodeError.message
  by_cases single : e.length = 1 <;> simp [single]

@[simp] theorem decode_message_printable (e : Utf8.DecodeError) {reason : Text} :
    IsPrintable (e.messageFor reason) ↔ IsPrintable reason := by
  unfold Utf8.DecodeError.messageFor
  by_cases single : e.length = 1 <;> simp [single]

@[simp] theorem undecodable_printable (e : Utf8.DecodeError) : IsPrintable e.message := by
  unfold Utf8.DecodeError.message
  cases e.flaw <;> simp [Utf8.Flaw.message]

@[simp] theorem fault_printable (fault : Fault) : IsPrintable fault.message := by
  cases fault <;> exact printable_string _

@[simp] theorem file_error_printable (e : FileError) : IsPrintable e.message := by
  cases e <;> simp [FileError.message]

@[simp] theorem home_error_printable (e : HomeError) : IsPrintable e.message := by
  cases e <;> simp [HomeError.message]

/-! ### Samples -/

@[simp] theorem sample_fault_printable (fault : Sample.Fault) : IsPrintable fault.message := by
  cases fault <;> exact printable_string _

@[simp] theorem too_many_digits_printable (count : Nat) : IsPrintable (Decimal.readMessage count) := by
  simp [Decimal.readMessage]

@[simp] theorem read_error_printable (e : Sample.ReadError) : IsPrintable e.message := by
  cases e <;> simp [Sample.ReadError.message]

@[simp] theorem sample_file_error_printable (e : SampleFileError) : IsPrintable e.message := by
  have reason : IsPrintable e.reason := by cases e <;> simp [SampleFileError.reason]
  unfold SampleFileError.message
  by_cases blamed : e.blamesFile = true <;> simp [blamed, reason]

@[simp] theorem source_file_error_printable (e : SourceFileError) : IsPrintable e.message := by
  cases e <;> simp [SourceFileError.message]

/-! ### Markup -/

theorem task_printable (task : Markup.Task) : IsPrintable task.message := by
  cases task <;> simp [Markup.Task.message]

theorem found_printable (found : Option CodePoint) : IsPrintable (Markup.foundText found) :=
  printable_quoted _

theorem wanted_printable (wanted : Markup.Wanted) : IsPrintable wanted.message := by
  cases wanted <;> simp [Markup.Wanted.message]

theorem node_kind_printable (kind : Markup.NodeKind) : IsPrintable kind.name := by
  cases kind <;> exact printable_string _

theorem escape_form_printable (c : CodePoint) : IsPrintable (Markup.escapeForm c) := by
  unfold Markup.escapeForm
  split
  · simp
  · split <;> simp

theorem flaw_printable (flaw : Markup.Flaw) : IsPrintable flaw.message := by
  cases flaw with
  | notAscii first start stop =>
    unfold Markup.Flaw.message
    by_cases alone : start = stop <;> simp [alone, escape_form_printable]
  | _ => simp [Markup.Flaw.message, found_printable, wanted_printable, node_kind_printable]

theorem place_printable_iff {name : Text} {place : Markup.Place} :
    IsPrintable (place.message name) ↔ IsPrintable name := by
  simp [Markup.Place.message]

/-- A fault shows the name of the file. -/
theorem markup_fault_printable_iff {name : Text} {fault : Markup.Fault} :
    IsPrintable (fault.message name) ↔ IsPrintable name := by
  rw [Markup.Fault.message, printable_join_iff (printable_string _)]
  have lines : IsPrintable name → ∀ line ∈ fault.taskLines name, IsPrintable line := by
    intro printable
    unfold Markup.Fault.taskLines
    split
    · exact List.forall_mem_nil _
    · simp [task_printable]
    · split <;> simp [task_printable, place_printable_iff, printable]
  constructor
  · intro each
    exact place_printable_iff.mp (each (fault.place.message name) (by simp))
  · intro printable
    refine List.forall_mem_append.mpr ⟨lines printable, ?_⟩
    simp [flaw_printable, place_printable_iff, printable]

theorem date_part_printable (part : Markup.DatePart) : IsPrintable part.message := by
  cases part <;> simp [Markup.DatePart.message]

theorem span_printable (minutes : Int) : IsPrintable (Markup.spanText minutes) := by
  unfold Markup.spanText
  simp only [printable_append, printable_string, true_and, and_true]
  refine (printable_join_iff (printable_string _)).mpr (List.forall_mem_append.mpr ⟨?_, ?_⟩)
  · split <;> simp
  · split <;> simp

/-- Only the complaint about malformed markup shows the name of the file. -/
theorem refusal_printable_iff {name : Text} {refusal : Markup.Refusal} :
    IsPrintable (refusal.message name) ↔ (refusal.isMalformed = true → IsPrintable name) := by
  cases refusal with
  | fault f => simpa [Markup.Refusal.message, Markup.Refusal.isMalformed] using markup_fault_printable_iff
  | notWhole base found =>
    have shortened : IsPrintable (found.quoted.take Markup.Refusal.shownLength) :=
      printable_part (printable_quoted found) fun c => List.mem_of_mem_take
    simp [Markup.Refusal.message, Markup.Refusal.isMalformed, shortened]
  | _ => simp [Markup.Refusal.message, Markup.Refusal.isMalformed, date_part_printable, span_printable]

/-- Whether a configuration file is refused as malformed markup. -/
def isMalformedMarkup : ConfigFileError → Bool
  | .badMarkup refusal => refusal.isMalformed
  | _ => false

theorem config_error_printable_iff {path : Text} {e : ConfigFileError} :
    IsPrintable (e.message path) ↔ (isMalformedMarkup e = true → IsPrintable path) := by
  cases e with
  | badMarkup refusal => exact refusal_printable_iff
  | _ => simp [ConfigFileError.message, isMalformedMarkup]

/-! ### Help -/

theorem spaces_printable (count : Nat) : IsPrintable (spaces count) := printable_replicate count ' '

theorem fill_lines_printable {indent width : Nat} {line parts : List Text}
    (begun : ∀ part ∈ line, IsPrintable part) (each : ∀ part ∈ parts, IsPrintable part) :
    ∀ filled ∈ fillLines indent line width parts, IsPrintable filled := by
  induction parts generalizing line width with
  | nil =>
    unfold fillLines
    split
    · exact List.forall_mem_nil _
    · simpa using (printable_join_iff (printable_string " ")).mpr begun
  | cons part rest ih =>
    obtain ⟨first, others⟩ := List.forall_mem_cons.mp each
    unfold fillLines
    split
    · refine List.forall_mem_cons.mpr ⟨(printable_join_iff (printable_string _)).mpr begun, ?_⟩
      exact ih (by simpa using first) others
    · exact ih (List.forall_mem_append.mpr ⟨begun, by simpa using first⟩) others

/-- All that a grammar says about itself can be printed. -/
structure IsPlain (g : Grammar) : Prop where
  description : IsPrintable g.description
  arguments : ∀ argument ∈ g.arguments, IsPrintable argument.name ∧ IsPrintable argument.help
  options : ∀ option ∈ g.options, IsPrintable option.name ∧ IsPrintable option.help ∧
    ∀ value ∈ option.valueName, IsPrintable value

variable {g : Grammar} {option : OptionSpec}

theorem spellings_printable (name : IsPrintable option.name) :
    ∀ spelling ∈ option.spellings, IsPrintable spelling.text := by
  intro spelling listed
  rcases List.mem_append.mp listed with short | long
  · obtain ⟨letter, -, rfl⟩ := Option.map_eq_some_iff.mp (Option.mem_toList.mp short)
    simp [Spelling.text]
  · rw [List.mem_singleton.mp long]
    simp [Spelling.text, name]

theorem value_printable (value : ∀ value ∈ option.valueName, IsPrintable value) :
    IsPrintable (match option.valueName with
      | none => ([] : Text)
      | some name => " " ++ name) := by
  cases named : option.valueName with
  | none => exact printable_nil
  | some name => simp [value name named]

theorem option_usage_printable (name : IsPrintable option.name)
    (value : ∀ value ∈ option.valueName, IsPrintable value) : IsPrintable option.usage := by
  have spelled : IsPrintable (((option.spellings.head?).map Spelling.text).getD []) := by
    cases first : option.spellings.head? with
    | none => exact printable_nil
    | some spelling => exact spellings_printable name spelling (List.mem_of_head? first)
  unfold OptionSpec.usage
  simp only [printable_append, printable_string, spelled, true_and, and_true]
  exact value_printable value

theorem usage_printable (plain : IsPlain g) : IsPrintable g.usage := by
  have start : IsPrintable programName := printable_string _
  have options : ∀ usage ∈ g.options.map OptionSpec.usage, IsPrintable usage :=
    List.forall_mem_map.mpr fun option listed =>
      option_usage_printable (plain.options option listed).1 (plain.options option listed).2.2
  have arguments : ∀ name ∈ g.arguments.map (·.name), IsPrintable name :=
    List.forall_mem_map.mpr fun argument listed => (plain.arguments argument listed).1
  have begun : ∀ part ∈ programName :: g.options.map OptionSpec.usage, IsPrintable part :=
    List.forall_mem_cons.mpr ⟨start, options⟩
  unfold Grammar.usage
  refine printable_append.mpr ⟨(printable_join_iff (printable_string _)).mpr ?_, printable_string _⟩
  dsimp only
  -- The usage takes one line where it fits, else lines of its options and lines of its arguments.
  split
  · have whole := (printable_join_iff (printable_string " ")).mpr (List.forall_mem_append.mpr ⟨begun, arguments⟩)
    simpa using whole
  · split
    · exact List.forall_mem_nil _
    · rename_i head rest lines
      have filled : ∀ line ∈ head :: rest, IsPrintable line := by
        rw [← lines]
        exact List.forall_mem_append.mpr
          ⟨fill_lines_printable (List.forall_mem_nil _) begun, fill_lines_printable (List.forall_mem_nil _) arguments⟩
      obtain ⟨first, others⟩ := List.forall_mem_cons.mp filled
      refine List.forall_mem_cons.mpr ⟨by simp [first], List.forall_mem_map.mpr fun line listed => ?_⟩
      simp [spaces_printable, others line listed]

theorem help_section_printable {column : Nat} {title : Text} {entries : List (Text × Text)}
    (titled : IsPrintable title) (each : ∀ entry ∈ entries, IsPrintable entry.1 ∧ IsPrintable entry.2) :
    IsPrintable (helpSection column title entries) := by
  unfold helpSection
  split
  · exact printable_nil
  · have entry : IsPrintable (entries.flatMap fun entry => helpEntry column entry.1 entry.2) := by
      refine printable_flat_map fun entry listed => ?_
      obtain ⟨name, help⟩ := each entry listed
      unfold helpEntry
      split <;> simp [name, help, spaces_printable]
    simp [titled, entry]

theorem help_plain_printable (plain : IsPlain g) : IsPrintable g.help := by
  have arguments : ∀ entry ∈ g.arguments.map fun a => (a.name, a.help),
      IsPrintable entry.1 ∧ IsPrintable entry.2 := List.forall_mem_map.mpr plain.arguments
  have options : ∀ entry ∈ g.options.map fun o => (o.invocation, o.help),
      IsPrintable entry.1 ∧ IsPrintable entry.2 := by
    refine List.forall_mem_map.mpr fun option listed => ?_
    obtain ⟨name, help, value⟩ := plain.options option listed
    refine ⟨(printable_join_iff (printable_string _)).mpr ?_, help⟩
    refine List.forall_mem_map.mpr fun spelling spelled => ?_
    exact printable_append.mpr ⟨spellings_printable name spelling spelled, value_printable value⟩
  unfold Grammar.help
  simp only [printable_append, printable_string, usage_printable plain, plain.description, true_and]
  exact ⟨help_section_printable (printable_string _) arguments,
    help_section_printable (printable_string _) options⟩

/-- The help of every command can be printed. -/
theorem help_printable (command : Verb) : IsPrintable command.grammar.help := by
  refine help_plain_printable ⟨?_, ?_, ?_⟩
  · cases command <;> exact printable_string _
  · cases command <;> simp [Verb.grammar, sampleArguments, configArgument]
  · cases command <;> simp [Verb.grammar, helpOption, verboseOption, flag]

end ClassMold.Wording
