import ClassMold.Proofs.Sample.LastMembers
import ClassMold.Proofs.Sample.NumberForms
import ClassMold.Proofs.Sample.RoundTrip

/-! JSON documents as texts. The grammar tells a document from its text as it is written, with the
members of an object one after another and any of them as often as it stands there; it cuts a text
into parts and mentions no reader. A text is read as a sample exactly if it is such a document in
which no integer has too many digits, and the sample is what is kept of it. -/
namespace ClassMold.Documents
open Sample Spelling Numerals NumberForms Reading RoundTrip Values LastMembers

/-- White space that may stand between tokens, or nothing. -/
def IsGap (t : Text) : Prop := ∀ c ∈ t, isSeparator c = true

/-- A name with its colon, up to the value behind it. -/
inductive WritesName : Text → Text → Prop where
  | named {spelled name gap gap' : Text} (spells : Spells spelled name []) (blank : IsGap gap)
      (blank' : IsGap gap') :
      WritesName (.scalar '"' :: (spelled ++ (gap ++ .scalar ':' :: gap'))) name

/-- A text that writes a value, the items of a list from one of them on up to the bracket, or the
members of an object from one of them on up to the brace; and what it writes. -/
inductive Writes : Part → Text → Sample → Prop where
  | word {t : Text} {value : Sample} (listed : (t, value) ∈ wordValues) : Writes .value t value
  | number {t : Text} {value : Sample} (number : IsNumber t value) : Writes .value t value
  | string {spelled value : Text} (spells : Spells spelled value []) :
      Writes .value (.scalar '"' :: spelled) (.str value)
  | noItems {gap : Text} (blank : IsGap gap) : Writes .value (.scalar '[' :: (gap ++ [.scalar ']'])) (.list [])
  | items {gap inner : Text} {items : List Sample} (blank : IsGap gap)
      (written : Writes .items inner (.list items)) :
      Writes .value (.scalar '[' :: (gap ++ inner)) (.list items)
  | noMembers {gap : Text} (blank : IsGap gap) :
      Writes .value (.scalar '\x7b' :: (gap ++ [.scalar '\x7d'])) (.object [])
  | members {gap inner : Text} {members : List (Text × Sample)} (blank : IsGap gap)
      (written : Writes .members inner (.object members)) :
      Writes .value (.scalar '\x7b' :: (gap ++ inner)) (.object members)
  | lastItem {t gap : Text} {item : Sample} (first : Writes .value t item) (blank : IsGap gap) :
      Writes .items (t ++ (gap ++ [.scalar ']'])) (.list [item])
  | moreItems {t gap gap' more : Text} {item : Sample} {items : List Sample}
      (first : Writes .value t item) (blank : IsGap gap) (blank' : IsGap gap')
      (others : Writes .items more (.list items)) :
      Writes .items (t ++ (gap ++ .scalar ',' :: (gap' ++ more))) (.list (item :: items))
  | lastMember {start t gap name : Text} {value : Sample} (named : WritesName start name)
      (first : Writes .value t value) (blank : IsGap gap) :
      Writes .members (start ++ (t ++ (gap ++ [.scalar '\x7d']))) (.object [(name, value)])
  | moreMembers {start t gap gap' more name : Text} {value : Sample} {members : List (Text × Sample)}
      (named : WritesName start name) (first : Writes .value t value) (blank : IsGap gap)
      (blank' : IsGap gap') (others : Writes .members more (.object members)) :
      Writes .members (start ++ (t ++ (gap ++ .scalar ',' :: (gap' ++ more))))
        (.object ((name, value) :: members))

/-- A text that is a document, with white space around it, and what is written there. -/
def IsDocument (t : Text) (written : Sample) : Prop :=
  ∃ before own after, IsGap before ∧ IsGap after ∧ Writes .value own written ∧ t = before ++ (own ++ after)

mutual

/-- The integers of a document. -/
def integers : Sample → List Int
  | .int i => [i]
  | .list items => itemIntegers items
  | .object members => memberIntegers members
  | _ => []

/-- The integers of several documents. -/
def itemIntegers : List Sample → List Int
  | [] => []
  | item :: rest => integers item ++ itemIntegers rest

/-- The integers of the values of some members. -/
def memberIntegers : List (Text × Sample) → List Int
  | [] => []
  | (_, value) :: rest => integers value ++ memberIntegers rest

end

/-- No integer has more digits than are read. -/
def FewDigits (written : Sample) : Prop :=
  ∀ i ∈ integers written, (Text.ofNat i.natAbs).length ≤ Decimal.digitLimit

variable {t u gap rest : Text} {value item written : Sample} {items : List Sample}
  {members : List (Text × Sample)} {part : Part} {key name : Text}

/-! ### Integers -/

theorem few_cons_item : FewDigits (.list (item :: items)) ↔ FewDigits item ∧ FewDigits (.list items) := by
  simp only [FewDigits, integers, itemIntegers, List.forall_mem_append]

theorem few_cons_member : FewDigits (.object ((key, value) :: members)) ↔
    FewDigits value ∧ FewDigits (.object members) := by
  simp only [FewDigits, integers, memberIntegers, List.forall_mem_append]

theorem few_no_items : FewDigits (.list []) := List.forall_mem_nil _

theorem few_no_members : FewDigits (.object []) := List.forall_mem_nil _

theorem few_flat (flat : IsFlat value)
    (few : ∀ i, value = .int i → (Text.ofNat i.natAbs).length ≤ Decimal.digitLimit) : FewDigits value := by
  cases value with
  | int i => exact List.forall_mem_singleton.mpr (few i rfl)
  | null => exact List.forall_mem_nil _
  | bool => exact List.forall_mem_nil _
  | float => exact List.forall_mem_nil _
  | _ => cases flat

theorem few_integer (few : FewDigits value) (i : Int) (same : value = .int i) :
    (Text.ofNat i.natAbs).length ≤ Decimal.digitLimit := by
  subst same
  exact few i List.mem_cons_self

/-! ### Gaps -/

theorem gap_nil : IsGap [] := List.forall_mem_nil _

theorem skip_gap (blank : IsGap gap) (t : Text) : skip (gap ++ t) = skip t :=
  List.dropWhile_append_of_pos blank

/-- What a value begins with ends a gap. -/
theorem skip_to (blank : IsGap gap) (opens : Opens u) : skip (gap ++ u) = u :=
  (skip_gap blank u).trans (skip_opens opens)

theorem gap_before (skipped : skip t = u) : ∃ gap, IsGap gap ∧ t = gap ++ u :=
  ⟨t.takeWhile isSeparator, List.all_eq_true.mp List.all_takeWhile,
    skipped ▸ List.takeWhile_append_dropWhile.symm⟩

theorem separator_cases {c : CodePoint} (separates : isSeparator c = true) :
    c ∈ [CodePoint.scalar ' ', .scalar '\t', .scalar '\n', .scalar '\r'] := by
  unfold isSeparator at separates
  split at separates
  case h_5 => cases separates
  all_goals decide

theorem gap_ends (blank : IsGap gap) (ends : NumberEnds rest) : NumberEnds (gap ++ rest) := by
  have apart : ∀ c ∈ [CodePoint.scalar ' ', .scalar '\t', .scalar '\n', .scalar '\r'],
      c.isAsciiDigit = false ∧ c ≠ .scalar '.' ∧ c ≠ .scalar 'e' ∧ c ≠ .scalar 'E' := by decide
  cases gap with
  | nil => exact ends
  | cons c gap =>
    intro first same
    cases same
    exact apart c (separator_cases (blank c List.mem_cons_self))

theorem close_ends {c : CodePoint}
    (closes : c ∈ [CodePoint.scalar ']', .scalar '\x7d', .scalar ',']) (u : Text) : NumberEnds (c :: u) := by
  have apart : ∀ c ∈ [CodePoint.scalar ']', .scalar '\x7d', .scalar ','],
      c.isAsciiDigit = false ∧ c ≠ .scalar '.' ∧ c ≠ .scalar 'e' ∧ c ≠ .scalar 'E' := by decide
  intro first same
  cases same
  exact apart c closes

/-! ### What is read is written -/

/-- What the reader makes of a part that is written. Members are put together when the object they
belong to ends. -/
def keptAs : Part → Sample → Sample
  | .members, .object members => .object (keptMembers members)
  | _, written => kept written

theorem kept_flat (flat : IsFlat value) : kept value = value := by
  cases value with
  | list => cases flat
  | object => cases flat
  | _ => rfl

theorem kept_items_shape (same : keptAs .items written = .list items) :
    ∃ own, written = .list own ∧ keptItems own = items := by
  cases written <;> cases same
  exact ⟨_, rfl, rfl⟩

theorem kept_members_shape (same : keptAs .members written = .object members) :
    ∃ own, written = .object own ∧ keptMembers own = members := by
  cases written <;> cases same
  exact ⟨_, rfl, rfl⟩

theorem word_written (taken : readWord t = some (value, rest)) :
    ∃ word, (word, value) ∈ wordValues ∧ t = word ++ rest := by
  unfold readWord at taken
  split at taken
  · rename_i word held found
    cases taken
    have starts := List.find?_some found
    have starts := List.isPrefixOf_iff_prefix.mp starts
    exact ⟨word, List.mem_of_find?_eq_some found, (List.prefix_iff_eq_append.mp starts).symm⟩
  · cases taken

/-- A word or a number that is read is written there. -/
theorem plain_written {left : Rest t} (read : readPlain t = .ok (value, left)) :
    ∃ own, Writes .value own value ∧ t = own ++ left.1 ∧ FewDigits value := by
  have flat := plain_flat read
  unfold readPlain at read
  split at read
  · rename_i word
    cases read
    obtain ⟨own, listed, shape⟩ := word_written word
    refine ⟨own, .word listed, shape, few_flat flat ?_⟩
    rintro i rfl
    simp [wordValues] at listed
  · split at read
    · cases read
    · cases read
    · rename_i number
      cases read
      obtain ⟨own, isNumber, shape, few⟩ := number_written number
      exact ⟨own, .number isNumber, shape, few_flat flat few⟩

theorem name_written (names : Names t name rest) : ∃ start, WritesName start name ∧ t = start ++ rest := by
  cases names with
  | @named _ _ _ after spelled colon =>
    obtain ⟨own, rfl, spells⟩ := spelled_alone spelled
    obtain ⟨gap, blank, rfl⟩ := gap_before colon
    obtain ⟨gap', blank', shape⟩ := gap_before (rfl : skip after = skip after)
    refine ⟨_, .named spells blank blank', ?_⟩
    simp [← shape]

/-- What is read is written, and the reader gives what is kept of it. -/
theorem reads_written (reads : Reads part t value rest) : ∃ own written,
    Writes part own written ∧ t = own ++ rest ∧ FewDigits written ∧ keptAs part written = value := by
  induction reads with
  | text spelled =>
    obtain ⟨own, rfl, spells⟩ := spelled_alone spelled
    exact ⟨_, _, .string spells, rfl, List.forall_mem_nil _, rfl⟩
  | noItems closed =>
    obtain ⟨gap, blank, rfl⟩ := gap_before closed
    exact ⟨_, _, .noItems blank, by simp, few_no_items, rfl⟩
  | items opened inner ih =>
    obtain ⟨own, written, writes, shape, few, same⟩ := ih
    obtain ⟨items, rfl, rfl⟩ := kept_items_shape same
    obtain ⟨gap, blank, rfl⟩ := gap_before shape
    exact ⟨_, _, .items blank writes, by simp, few, rfl⟩
  | noMembers closed =>
    obtain ⟨gap, blank, rfl⟩ := gap_before closed
    exact ⟨_, _, .noMembers blank, by simp, few_no_members, rfl⟩
  | members opened inner ih =>
    obtain ⟨own, written, writes, shape, few, same⟩ := ih
    obtain ⟨members, rfl, rfl⟩ := kept_members_shape same
    obtain ⟨gap, blank, rfl⟩ := gap_before shape
    refine ⟨_, _, .members blank writes, by simp, few, ?_⟩
    rw [collected_last]
    rfl
  | plain noText noList noObject read =>
    obtain ⟨own, writes, shape, few⟩ := plain_written read
    exact ⟨own, _, writes, shape, few, kept_flat (plain_flat read)⟩
  | lastItem first closed ih =>
    obtain ⟨own, item, writes, rfl, few, rfl⟩ := ih
    obtain ⟨gap, blank, rfl⟩ := gap_before closed
    exact ⟨_, _, .lastItem writes blank, by simp, few_cons_item.mpr ⟨few, few_no_items⟩, rfl⟩
  | moreItems first comma more ih ihMore =>
    obtain ⟨own, item, writes, rfl, few, rfl⟩ := ih
    obtain ⟨others, written, writesMore, shape, fewMore, same⟩ := ihMore
    obtain ⟨items, rfl, rfl⟩ := kept_items_shape same
    obtain ⟨gap', blank', rfl⟩ := gap_before shape
    obtain ⟨gap, blank, rfl⟩ := gap_before comma
    exact ⟨_, _, .moreItems writes blank blank' writesMore, by simp,
      few_cons_item.mpr ⟨few, fewMore⟩, rfl⟩
  | lastMember named first closed ih =>
    obtain ⟨start, writesName, rfl⟩ := name_written named
    obtain ⟨own, value, writes, rfl, few, rfl⟩ := ih
    obtain ⟨gap, blank, rfl⟩ := gap_before closed
    exact ⟨_, _, .lastMember writesName writes blank, by simp,
      few_cons_member.mpr ⟨few, few_no_members⟩, rfl⟩
  | moreMembers named first comma more ih ihMore =>
    obtain ⟨start, writesName, rfl⟩ := name_written named
    obtain ⟨own, value, writes, rfl, few, rfl⟩ := ih
    obtain ⟨others, written, writesMore, shape, fewMore, same⟩ := ihMore
    obtain ⟨members, rfl, rfl⟩ := kept_members_shape same
    obtain ⟨gap', blank', rfl⟩ := gap_before shape
    obtain ⟨gap, blank, rfl⟩ := gap_before comma
    exact ⟨_, _, .moreMembers writesName writes blank blank' writesMore, by simp,
      few_cons_member.mpr ⟨few, fewMore⟩, rfl⟩

/-! ### What is written is read -/

theorem name_opens (named : WritesName t name) (u : Text) : Opens (t ++ u) := by
  cases named
  exact ⟨.scalar '"', rfl, by decide⟩

/-- The first signs of texts, lists and objects. -/
def partSigns : List CodePoint := [.scalar '"', .scalar '[', .scalar '\x7b']

theorem number_starts (number : IsNumber t value) :
    ∃ c ∈ t.head?, c = .scalar '-' ∨ c.isAsciiDigit = true := by
  have starts (negative : Bool) (n : Nat) (u : Text) :
      ∃ c ∈ (signed negative (Text.ofNat n ++ u)).head?, c = .scalar '-' ∨ c.isAsciiDigit = true := by
    obtain ⟨c, others, shape, digit⟩ := nat_starts n u
    cases negative with
    | true => exact ⟨_, rfl, .inl rfl⟩
    | false => exact ⟨c, by rw [signed, shape]; rfl, .inr digit⟩
  cases number with
  | integer negative n => simpa using starts negative n []
  | float negative n => exact starts negative n _

theorem word_starts (listed : (t, value) ∈ wordValues) : Opens t ∧ ∃ c ∈ t.head?, c ∉ partSigns := by
  simp only [wordValues, List.mem_cons, Prod.mk.injEq, List.not_mem_nil, or_false] at listed
  rcases listed with ⟨rfl, -⟩ | ⟨rfl, -⟩ | ⟨rfl, -⟩ | ⟨rfl, -⟩ | ⟨rfl, -⟩ | ⟨rfl, -⟩ <;>
    exact ⟨⟨_, rfl, by decide⟩, _, rfl, by decide⟩

theorem number_no_part (number : IsNumber t value) : ∃ c ∈ t.head?, c ∉ partSigns := by
  obtain ⟨c, first, rfl | digit⟩ := number_starts number
  · exact ⟨_, first, by decide⟩
  · refine ⟨c, first, fun sign => ?_⟩
    have noDigit : ∀ c ∈ partSigns, c.isAsciiDigit = false := by decide
    exact absurd digit (Bool.eq_false_iff.mp (noDigit c sign))

/-- A value, items and members all begin with something that is no white space and closes nothing. -/
theorem written_opens (writes : Writes part t written) : Opens t := by
  induction writes with
  | word listed => exact (word_starts listed).1
  | number number =>
    obtain ⟨c, first, sign | digit⟩ := number_starts number
    · exact ⟨c, first, sign ▸ by decide⟩
    · obtain ⟨left, rfl⟩ := List.head?_eq_some_iff.mp first
      exact digit_opens digit left
  | string => exact ⟨.scalar '"', rfl, by decide⟩
  | noItems => exact ⟨.scalar '[', rfl, by decide⟩
  | items => exact ⟨.scalar '[', rfl, by decide⟩
  | noMembers => exact ⟨.scalar '\x7b', rfl, by decide⟩
  | members => exact ⟨.scalar '\x7b', rfl, by decide⟩
  | lastItem first blank ih => exact opens_append ih _
  | moreItems first blank blank' others ih => exact opens_append ih _
  | lastMember named => exact name_opens named _
  | moreMembers named => exact name_opens named _

theorem word_taken (listed : (t, value) ∈ wordValues) (rest : Text) :
    readWord (t ++ rest) = some (value, rest) := by
  simp only [wordValues, List.mem_cons, Prod.mk.injEq, List.not_mem_nil, or_false] at listed
  rcases listed with ⟨rfl, rfl⟩ | ⟨rfl, rfl⟩ | ⟨rfl, rfl⟩ | ⟨rfl, rfl⟩ | ⟨rfl, rfl⟩ | ⟨rfl, rfl⟩ <;> rfl

theorem name_taken (named : WritesName t name) (opens : Opens u) : Names (t ++ u) name u := by
  cases named with
  | @named spelled name gap gap' spells blank blank' =>
    have colon : skip (gap ++ .scalar ':' :: (gap' ++ u)) = .scalar ':' :: (gap' ++ u) := skip_gap blank _
    have names := Names.named (spelled_before spells _) colon
    rw [skip_to blank' opens] at names
    simpa using names

theorem plain_taken (first : ∃ c ∈ t.head?, c ∉ partSigns)
    (read : ∃ left, readPlain (t ++ rest) = .ok (value, left) ∧ left.1 = rest) :
    Reads .value (t ++ rest) (kept value) rest := by
  obtain ⟨c, opens, apart⟩ := first
  obtain ⟨left, taken, -⟩ := id read
  rw [kept_flat (plain_flat taken)]
  refine plain_reads ⟨c, by simp [Option.mem_def.mp opens], ?_⟩ read
  simpa [partSigns] using apart

/-- What is written is read as what is kept of it, if nothing behind goes on with a number. -/
theorem written_read (writes : Writes part t written) (few : FewDigits written) :
    ∀ rest, NumberEnds rest → Reads part (t ++ rest) (keptAs part written) rest := by
  induction writes with
  | word listed =>
    exact fun rest _ => plain_taken (word_starts listed).2 (word_reads (word_taken listed rest))
  | number number =>
    exact fun rest ends =>
      plain_taken (number_no_part number) (number_taken number (few_integer few) ends)
  | string spells => exact fun rest _ => .text (spelled_before spells rest)
  | noItems blank =>
    intro rest _
    have closed := skip_gap blank (.scalar ']' :: rest)
    simpa [keptAs, kept, keptItems] using Reads.noItems closed
  | @items gap inner items blank writes ih =>
    intro rest ends
    have opens := opens_append (written_opens writes) rest
    have start := skip_to blank opens
    have read : Reads .items (inner ++ rest) (.list (keptItems items)) rest := ih few rest ends
    have whole := Reads.items (start ▸ opens_apart opens (by decide)) (start.symm ▸ read)
    simpa [keptAs, kept] using whole
  | noMembers blank =>
    intro rest _
    have closed := skip_gap blank (.scalar '\x7d' :: rest)
    simpa [keptAs, kept, keptMembers, lastOfEach, keysOf] using Reads.noMembers closed
  | @members gap inner members blank writes ih =>
    intro rest ends
    have opens := opens_append (written_opens writes) rest
    have start := skip_to blank opens
    have read : Reads .members (inner ++ rest) (.object (keptMembers members)) rest := ih few rest ends
    have whole := Reads.members (start ▸ opens_apart opens (by decide)) (start.symm ▸ read)
    rw [collected_last] at whole
    simpa [keptAs, kept] using whole
  | @lastItem t gap item first blank ih =>
    intro rest _
    obtain ⟨fewFirst, -⟩ := few_cons_item.mp few
    have behind := gap_ends blank (close_ends (c := .scalar ']') (by decide) rest)
    have item := ih fewFirst _ behind
    simpa [keptAs, kept, keptItems] using Reads.lastItem item (skip_gap blank _)
  | @moreItems t gap gap' more item items first blank blank' others ih ihMore =>
    intro rest ends
    obtain ⟨fewFirst, fewMore⟩ := few_cons_item.mp few
    have opens := opens_append (written_opens others) rest
    have start := skip_to blank' opens
    have behind := gap_ends blank (close_ends (c := .scalar ',') (by decide) (gap' ++ (more ++ rest)))
    have item := ih fewFirst _ behind
    have read : Reads .items (more ++ rest) (.list (keptItems items)) rest := ihMore fewMore rest ends
    simpa [keptAs, kept, keptItems] using Reads.moreItems item (skip_gap blank _) (start.symm ▸ read)
  | @lastMember start t gap name value named first blank ih =>
    intro rest _
    obtain ⟨fewFirst, -⟩ := few_cons_member.mp few
    have behind := gap_ends blank (close_ends (c := .scalar '\x7d') (by decide) rest)
    have value := ih fewFirst _ behind
    have name := name_taken named (opens_append (written_opens first) (gap ++ .scalar '\x7d' :: rest))
    simpa [keptAs, keptMembers] using Reads.lastMember name value (skip_gap blank _)
  | @moreMembers start t gap gap' more name value members named first blank blank' others ih ihMore =>
    intro rest ends
    obtain ⟨fewFirst, fewMore⟩ := few_cons_member.mp few
    have opens := opens_append (written_opens others) rest
    have start := skip_to blank' opens
    have behind := gap_ends blank (close_ends (c := .scalar ',') (by decide) (gap' ++ (more ++ rest)))
    have value := ih fewFirst _ behind
    have name := name_taken named
      (opens_append (written_opens first) (gap ++ .scalar ',' :: (gap' ++ (more ++ rest))))
    have read : Reads .members (more ++ rest) (.object (keptMembers members)) rest :=
      ihMore fewMore rest ends
    simpa [keptAs, keptMembers] using Reads.moreMembers name value (skip_gap blank _) (start.symm ▸ read)

/-- A text is read as a sample exactly if it is a document without too long integers of which this
sample is kept. -/
theorem read_iff_written (t : Text) (value : Sample) : Sample.read t = .ok value ↔
    ∃ written, IsDocument t written ∧ FewDigits written ∧ kept written = value := by
  rw [read_ok_iff]
  constructor
  · rintro ⟨-, rest, reads, ended⟩
    obtain ⟨own, written, writes, shape, few, same⟩ := reads_written reads
    obtain ⟨before, blank, rfl⟩ := gap_before shape
    obtain ⟨after, blank', rfl⟩ := gap_before ended
    rw [List.append_nil]
    exact ⟨written, ⟨before, own, after, blank, blank', writes, rfl⟩, few, same⟩
  · rintro ⟨written, ⟨before, own, after, blank, blank', writes, rfl⟩, few, rfl⟩
    have opens := opens_append (written_opens writes) after
    have start := skip_to blank opens
    have nothing : NumberEnds [] := fun _ => nofun
    have ends : NumberEnds (after ++ []) := gap_ends blank' nothing
    rw [List.append_nil] at ends
    refine ⟨fun left same => ?_, after, start.symm ▸ written_read writes few after ends, ?_⟩
    · cases before with
      | nil => exact opens_apart opens (by decide) left same
      | cons c before =>
        cases same
        exact absurd (blank _ List.mem_cons_self) (by decide)
    · have none : skip (after ++ []) = skip [] := skip_gap blank' []
      rwa [List.append_nil] at none

end ClassMold.Documents
