import ClassMold.Document.Printer
import ClassMold.Proofs.Sample.Values

/-! Documents read back. A document that is printed in plain letters, one item a line, is read as
the sample with the same parts in the same order, whatever its texts are, as long as no text holds
the halves of a pair next to each other, no number has more digits than are read, and no object
has a key twice. -/
namespace ClassMold.RoundTrip
open Sample Spelling Numerals Reading

mutual

/-- The sample that a document is read back as. -/
def sampleOf : Document → Sample
  | .null => .null
  | .bool value => .bool value
  | .int value => .int value
  | .float value => .float value
  | .str value => .str value
  | .list items => .list (samplesOf items)
  | .object members => .object (membersOf members)

/-- The samples that several documents are read back as. -/
def samplesOf : List Document → List Sample
  | [] => []
  | item :: rest => sampleOf item :: samplesOf rest

/-- The members that those of a document are read back as. -/
def membersOf : List (Text × Document) → List (Text × Sample)
  | [] => []
  | (key, value) :: rest => (key, sampleOf value) :: membersOf rest

end

/-- A document without floats that the reader can tell from its text. -/
inductive Readable : Document → Prop where
  | null : Readable .null
  | bool (value : Bool) : Readable (.bool value)
  | int {value : Int} (fits : Decimal.isTooLong value = false) : Readable (.int value)
  | str {value : Text} (whole : Whole value) : Readable (.str value)
  | list {items : List Document} (each : ∀ item ∈ items, Readable item) : Readable (.list items)
  | object {members : List (Text × Document)} (keys : ∀ member ∈ members, Whole member.1)
      (distinct : (members.map Prod.fst).Nodup) (each : ∀ member ∈ members, Readable member.2) :
      Readable (.object members)

variable {t u rest close key : Text} {d first : Document} {items : List Document}
  {members : List (Text × Document)} {depth : Nat}

/-! ### Between the parts -/

/-- What no value begins with, besides separators. -/
def closings : List CodePoint := [.scalar ']', .scalar '\x7d', .scalar '\uFEFF']

/-- A text that begins as a value does. -/
def Opens (t : Text) : Prop := ∃ c ∈ t.head?, isSeparator c = false ∧ c ∉ closings

theorem opens_append (opens : Opens t) (u : Text) : Opens (t ++ u) := by
  obtain ⟨c, first, token⟩ := opens
  exact ⟨c, by simp [Option.mem_def.mp first], token⟩

theorem skip_opens (opens : Opens t) : skip t = t := by
  obtain ⟨c, first, token, -⟩ := opens
  obtain ⟨left, rfl⟩ := List.head?_eq_some_iff.mp first
  exact List.dropWhile_cons_of_neg (by simp [token])

theorem opens_apart {c : CodePoint} (opens : Opens t) (closing : c ∈ closings) (left : Text) :
    t ≠ c :: left := by
  obtain ⟨d, first, -, apart⟩ := opens
  rintro rfl
  exact apart (Option.some.inj first ▸ closing)

theorem skip_break (depth : Nat) (t : Text) : skip (Document.lineBreak depth ++ t) = skip t := by
  have separators : ∀ c ∈ Document.lineBreak depth, isSeparator c = true := by
    intro c listed
    rcases List.mem_cons.mp listed with rfl | space
    · rfl
    · rw [List.eq_of_mem_replicate space]
      rfl
  exact List.dropWhile_append_of_pos separators

theorem skip_line (depth : Nat) (opens : Opens t) : skip (Document.lineBreak depth ++ t) = t :=
  (skip_break depth t).trans (skip_opens opens)

theorem break_ends (depth : Nat) (t : Text) : NumberEnds (Document.lineBreak depth ++ t) := by
  intro c first
  cases first
  decide

theorem digit_opens {c : CodePoint} (digit : c.isAsciiDigit = true) (left : Text) : Opens (c :: left) := by
  refine ⟨c, rfl, Bool.eq_false_iff.mpr fun separates => ?_, fun closing => ?_⟩
  · unfold isSeparator at separates
    split at separates
    case h_5 => cases separates
    all_goals cases digit
  · simp only [closings, List.mem_cons, List.not_mem_nil, or_false] at closing
    rcases closing with rfl | rfl | rfl <;> cases digit

theorem literal_opens (t : Text) : Opens t.asciiLiteral := ⟨.scalar '"', rfl, by decide⟩

theorem pretty_opens (d : Document) (noFloat : ∀ value, d ≠ .float value) (depth : Nat) :
    Opens (d.pretty Text.asciiLiteral depth) := by
  cases d with
  | null => exact ⟨.scalar 'n', rfl, by decide⟩
  | bool value =>
    cases value
    · exact ⟨.scalar 'f', rfl, by decide⟩
    · exact ⟨.scalar 't', rfl, by decide⟩
  | int value =>
    rw [Document.pretty]
    cases value with
    | ofNat n =>
      obtain ⟨first, others, shape, digit⟩ := nat_opens n
      rw [Text.ofInt, shape]
      exact digit_opens digit others
    | negSucc n => exact ⟨.scalar '-', rfl, by decide⟩
  | float value => exact absurd rfl (noFloat value)
  | str value =>
    rw [Document.pretty]
    exact literal_opens value
  | list items =>
    cases items with
    | nil => exact ⟨.scalar '[', rfl, by decide⟩
    | cons first rest => exact ⟨.scalar '[', by rw [Document.pretty]; rfl, by decide⟩
  | object members =>
    cases members with
    | nil => exact ⟨.scalar '\x7b', rfl, by decide⟩
    | cons first rest => exact ⟨.scalar '\x7b', by rw [Document.pretty]; rfl, by decide⟩

/-! ### Parts read back -/

theorem readable_no_float (readable : Readable d) : ∀ value, d ≠ .float value := by
  rintro value rfl
  cases readable

/-- A document is read back as its sample, at any depth and before anything that does not go on
with a number. -/
def ReadsBack (d : Document) : Prop :=
  ∀ depth rest, NumberEnds rest → Reads .value (d.pretty Text.asciiLiteral depth ++ rest) (sampleOf d) rest

theorem text_reads (whole : Whole t) (rest : Text) :
    Reads .value (t.asciiLiteral ++ rest) (.str t) rest := by
  have spelled := Reads.text (ascii_spells whole rest)
  simpa [Text.asciiLiteral] using spelled

theorem name_reads (whole : Whole key) (opens : Opens u) :
    Names (key.asciiLiteral ++ (": " ++ u)) key u := by
  have colon : skip (": " ++ u) = .scalar ':' :: .scalar ' ' :: u := rfl
  have named := Names.named (ascii_spells whole (": " ++ u)) colon
  have value : skip (.scalar ' ' :: u) = u := skip_opens opens
  rw [value] at named
  simpa [Text.asciiLiteral] using named

theorem comma_ends (t : Text) : NumberEnds (.scalar ',' :: t) := by
  intro c first
  cases first
  decide

/-- The items of a list are read back up to its bracket. -/
theorem items_read (depth : Nat) (close_ : skip close = .scalar ']' :: rest) (ends : NumberEnds close)
    (firstReads : ReadsBack first) (each : ∀ item ∈ items, Readable item ∧ ReadsBack item) :
    Reads .items (first.pretty Text.asciiLiteral depth ++
      (Document.prettyItems Text.asciiLiteral depth items ++ close))
      (.list (samplesOf (first :: items))) rest := by
  induction items generalizing first with
  | nil => exact .lastItem (firstReads depth close ends) close_
  | cons item items ih =>
    obtain ⟨⟨readable, itemReads⟩, others⟩ := List.forall_mem_cons.mp each
    have opens := opens_append (pretty_opens item (readable_no_float readable) depth)
      (Document.prettyItems Text.asciiLiteral depth items ++ close)
    have later : Document.prettyItems Text.asciiLiteral depth (item :: items) ++ close =
        .scalar ',' :: (Document.lineBreak depth ++ (item.pretty Text.asciiLiteral depth ++
          (Document.prettyItems Text.asciiLiteral depth items ++ close))) := by
      simp [Document.prettyItems, Text.ofString]
    rw [later]
    refine .moreItems (firstReads depth _ (comma_ends _)) rfl ?_
    rw [skip_line depth opens]
    exact ih itemReads others

/-- The members of an object are read back up to its brace. -/
theorem members_read (depth : Nat) (close_ : skip close = .scalar '\x7d' :: rest) (ends : NumberEnds close)
    (whole : Whole key) (readable : Readable first) (firstReads : ReadsBack first)
    (each : ∀ member ∈ members, Whole member.1 ∧ Readable member.2 ∧ ReadsBack member.2) :
    Reads .members (key.asciiLiteral ++ (": " ++ (first.pretty Text.asciiLiteral depth ++
      (Document.prettyMembers Text.asciiLiteral depth members ++ close))))
      (.object (membersOf ((key, first) :: members))) rest := by
  induction members generalizing key first with
  | nil =>
    have opens := opens_append (pretty_opens first (readable_no_float readable) depth)
    exact .lastMember (name_reads whole (opens _)) (firstReads depth close ends) close_
  | cons member members ih =>
    obtain ⟨name, value⟩ := member
    obtain ⟨⟨nameWhole, valueReadable, valueReads⟩, others⟩ := List.forall_mem_cons.mp each
    have opens := opens_append (pretty_opens first (readable_no_float readable) depth)
    have later : Document.prettyMembers Text.asciiLiteral depth ((name, value) :: members) ++ close =
        .scalar ',' :: (Document.lineBreak depth ++ (name.asciiLiteral ++ (Text.ofString ": " ++
          (value.pretty Text.asciiLiteral depth ++
            (Document.prettyMembers Text.asciiLiteral depth members ++ close))))) := by
      simp [Document.prettyMembers, Text.ofString]
    rw [later]
    refine .moreMembers (name_reads whole (opens _)) (firstReads depth _ (comma_ends _)) rfl ?_
    rw [skip_line depth (opens_append (literal_opens name) _)]
    exact ih nameWhole valueReadable valueReads others

/-- What begins with none of the signs of texts, lists and objects is read as a word or a number. -/
theorem plain_reads {value : Sample}
    (first : ∃ c ∈ t.head?, c ≠ .scalar '"' ∧ c ≠ .scalar '[' ∧ c ≠ .scalar '\x7b')
    (read : ∃ left, readPlain t = .ok (value, left) ∧ left.1 = rest) : Reads .value t value rest := by
  obtain ⟨c, opens, noText, noList, noObject⟩ := first
  obtain ⟨left, read, rfl⟩ := read
  obtain ⟨after, rfl⟩ := List.head?_eq_some_iff.mp opens
  refine .plain ?_ ?_ ?_ read <;> rintro _ same <;> cases same
  · exact noText rfl
  · exact noList rfl
  · exact noObject rfl

theorem word_reads {value : Sample} (word : readWord t = some (value, rest)) :
    ∃ left, readPlain t = .ok (value, left) ∧ left.1 = rest := by
  unfold readPlain
  split
  · rename_i found
    cases word.symm.trans found
    exact ⟨_, rfl, rfl⟩
  · rename_i none
    cases word.symm.trans none

theorem int_reads {value : Int} (fits : Decimal.isTooLong value = false) (ends : NumberEnds rest) :
    Reads .value (Text.ofInt value ++ rest) (.int value) rest := by
  refine plain_reads ?_ (plain_int_read value fits ends)
  cases value with
  | ofNat n =>
    obtain ⟨c, others, shape, digit⟩ := nat_opens n
    refine ⟨c, by simp [Text.ofInt, shape], ?_⟩
    refine ⟨?_, ?_, ?_⟩ <;> rintro rfl <;> cases digit
  | negSucc n => exact ⟨.scalar '-', rfl, by decide⟩

theorem list_reads (readable : Readable first) (firstReads : ReadsBack first)
    (each : ∀ item ∈ items, Readable item ∧ ReadsBack item) : ReadsBack (.list (first :: items)) := by
  intro depth rest ends
  have opens := opens_append (pretty_opens first (readable_no_float readable) (depth + 1))
    (Document.prettyItems Text.asciiLiteral (depth + 1) items ++
      (Document.lineBreak depth ++ .scalar ']' :: rest))
  have closes : skip (Document.lineBreak depth ++ .scalar ']' :: rest) = .scalar ']' :: rest :=
    skip_break depth _
  have inner := items_read (depth + 1) closes (break_ends depth _) firstReads each
  have start := skip_line (depth + 1) opens
  have whole := Reads.items (start ▸ opens_apart opens (by decide)) (start.symm ▸ inner)
  simpa [Document.pretty, Text.ofString, sampleOf] using whole

theorem members_of_keys (members : List (Text × Document)) :
    (membersOf members).map Prod.fst = members.map Prod.fst := by
  induction members with
  | nil => rfl
  | cons member rest ih => simp [membersOf, ih]

theorem object_reads (whole : Whole key) (readable : Readable first) (firstReads : ReadsBack first)
    (each : ∀ member ∈ members, Whole member.1 ∧ Readable member.2 ∧ ReadsBack member.2)
    (distinct : (((key, first) :: members).map Prod.fst).Nodup) :
    ReadsBack (.object ((key, first) :: members)) := by
  intro depth rest ends
  have opens := opens_append (literal_opens key) (": " ++ (first.pretty Text.asciiLiteral (depth + 1) ++
    (Document.prettyMembers Text.asciiLiteral (depth + 1) members ++
      (Document.lineBreak depth ++ .scalar '\x7d' :: rest))))
  have closes : skip (Document.lineBreak depth ++ .scalar '\x7d' :: rest) = .scalar '\x7d' :: rest :=
    skip_break depth _
  have inner := members_read (depth + 1) closes (break_ends depth _) whole readable firstReads each
  have start := skip_line (depth + 1) opens
  have all := Reads.members (start ▸ opens_apart opens (by decide)) (start.symm ▸ inner)
  rw [Values.collected_all (by rw [members_of_keys]; exact distinct)] at all
  simpa [Document.pretty, Text.ofString, sampleOf] using all

/-- A readable document is read back as its sample. -/
theorem document_read (readable : Readable d) : ReadsBack d := by
  induction readable with
  | null => exact fun _ rest _ => plain_reads ⟨.scalar 'n', rfl, by decide⟩ (word_reads rfl)
  | bool value =>
    cases value
    · exact fun _ rest _ => plain_reads ⟨.scalar 'f', rfl, by decide⟩ (word_reads rfl)
    · exact fun _ rest _ => plain_reads ⟨.scalar 't', rfl, by decide⟩ (word_reads rfl)
  | int fits =>
    intro depth rest ends
    rw [Document.pretty]
    exact int_reads fits ends
  | str whole =>
    intro depth rest ends
    rw [Document.pretty]
    exact text_reads whole rest
  | @list items each ih =>
    cases items with
    | nil => exact fun _ _ _ => .noItems rfl
    | cons first items =>
      obtain ⟨readable, others⟩ := List.forall_mem_cons.mp each
      obtain ⟨back, more⟩ := List.forall_mem_cons.mp ih
      exact list_reads readable back fun item listed => ⟨others item listed, more item listed⟩
  | @object members keys distinct each ih =>
    cases members with
    | nil => exact fun _ _ _ => .noMembers rfl
    | cons member members =>
      obtain ⟨readable, others⟩ := List.forall_mem_cons.mp each
      obtain ⟨whole, names⟩ := List.forall_mem_cons.mp keys
      obtain ⟨back, more⟩ := List.forall_mem_cons.mp ih
      exact object_reads whole readable back
        (fun member listed => ⟨names member listed, others member listed, more member listed⟩) distinct

/-- A line with a readable document holds its sample. -/
theorem printed_document_read (readable : Readable d) (depth : Nat) :
    Sample.read (d.pretty Text.asciiLiteral depth ++ "\n") = .ok (sampleOf d) := by
  have opens := opens_append (pretty_opens d (readable_no_float readable) depth) "\n"
  refine read_ok_iff.mpr ⟨opens_apart opens (by decide), "\n", ?_, rfl⟩
  rw [skip_opens opens]
  exact document_read readable depth "\n" (break_ends 0 [])

end ClassMold.RoundTrip
