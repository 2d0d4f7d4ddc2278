import ClassMold.Proofs.Sample.Numerals
import ClassMold.Proofs.Sample.Spelling

/-! The grammar that the reader follows. What it accepts is told by one relation between a text,
a value and what is left of the text, with a constructor for each way that reading can go, so
that facts about what is read are shown along the derivation and never by opening the reader
again. The relation says all that the reader does: it holds exactly where reading succeeds. -/
namespace ClassMold.Reading
open Sample Spelling

/-- A name with its colon, and the text from its value on. -/
inductive Names : Text → Text → Text → Prop where
  | named {left name inner after : Text} (spelled : Spells left name inner)
      (colon : skip inner = .scalar ':' :: after) : Names (.scalar '"' :: left) name (skip after)

/-- What is being read: a value, the items of a list from one of them on, or the members of an
object from one of them on. -/
inductive Part where
  | value
  | items
  | members

/-- A part at the start of a text, what it says, and what is left. Items are told of as a list,
members as an object in which nothing has been put together yet. -/
inductive Reads : Part → Text → Sample → Text → Prop where
  | text {left value rest : Text} (spelled : Spells left value rest) :
      Reads .value (.scalar '"' :: left) (.str value) rest
  | noItems {left rest : Text} (closed : skip left = .scalar ']' :: rest) :
      Reads .value (.scalar '[' :: left) (.list []) rest
  | items {left rest : Text} {items : List Sample} (opened : ∀ after, skip left ≠ .scalar ']' :: after)
      (inner : Reads .items (skip left) (.list items) rest) :
      Reads .value (.scalar '[' :: left) (.list items) rest
  | noMembers {left rest : Text} (closed : skip left = .scalar '\x7d' :: rest) :
      Reads .value (.scalar '\x7b' :: left) (.object []) rest
  | members {left rest : Text} {members : List (Text × Sample)}
      (opened : ∀ after, skip left ≠ .scalar '\x7d' :: after)
      (inner : Reads .members (skip left) (.object members) rest) :
      Reads .value (.scalar '\x7b' :: left) (.object (collectMembers members)) rest
  | plain {t : Text} {value : Sample} {rest : Rest t} (noText : ∀ left, t ≠ .scalar '"' :: left)
      (noList : ∀ left, t ≠ .scalar '[' :: left) (noObject : ∀ left, t ≠ .scalar '\x7b' :: left)
      (read : readPlain t = .ok (value, rest)) : Reads .value t value rest.1
  | lastItem {t after rest : Text} {item : Sample} (first : Reads .value t item after)
      (closed : skip after = .scalar ']' :: rest) : Reads .items t (.list [item]) rest
  | moreItems {t after left rest : Text} {item : Sample} {items : List Sample}
      (first : Reads .value t item after) (comma : skip after = .scalar ',' :: left)
      (more : Reads .items (skip left) (.list items) rest) : Reads .items t (.list (item :: items)) rest
  | lastMember {t name start after rest : Text} {value : Sample}
      (named : Names t name start) (first : Reads .value start value after)
      (closed : skip after = .scalar '\x7d' :: rest) : Reads .members t (.object [(name, value)]) rest
  | moreMembers {t name start after left rest : Text} {value : Sample}
      {members : List (Text × Sample)} (named : Names t name start)
      (first : Reads .value start value after) (comma : skip after = .scalar ',' :: left)
      (more : Reads .members (skip left) (.object members) rest) :
      Reads .members t (.object ((name, value) :: members)) rest

variable {t u name after rest : Text} {value : Sample} {items : List Sample} {members : List (Text × Sample)}
  {part : Part}

/-! ### Names -/

theorem name_follows {start : Rest t} (read : readName t = .ok (name, start)) : Names t name start.1 := by
  unfold readName at read
  split at read
  · split at read
    · cases read
    · rename_i spelled
      split at read
      · rename_i colon
        cases read
        exact .named (string_follows _ _ _ _ spelled) colon
      · cases read
  · cases read

theorem name_read (names : Names t name after) :
    ∃ start, readName t = .ok (name, start) ∧ start.1 = after := by
  cases names with
  | @named left name inner after spelled colon =>
    obtain ⟨rest, read, rfl⟩ := string_read (.scalar '"' :: left) spelled
    unfold readName
    simp only [read]
    split
    · rename_i other
      cases colon.symm.trans other
      exact ⟨_, rfl, rfl⟩
    · rename_i other
      exact absurd colon (other after)

/-! ### What is read follows the grammar

The three readers call each other on ever shorter texts, so this is shown for one text from the
shorter ones. -/

/-- The value at the start of a text is read by the grammar. -/
def ValueSound (t : Text) : Prop :=
  ∀ value rest, readValue t = .ok (value, rest) → Reads .value t value rest.1

/-- So are the items. -/
def ItemsSound (t : Text) : Prop :=
  ∀ items rest, readItems t = .ok (items, rest) → Reads .items t (.list items) rest.1

/-- So are the members. -/
def MembersSound (t : Text) : Prop :=
  ∀ members rest, readMembers t = .ok (members, rest) → Reads .members t (.object members) rest.1

theorem value_sound (ofItems : ∀ u, u.length < t.length → ItemsSound u)
    (ofMembers : ∀ u, u.length < t.length → MembersSound u) : ValueSound t := by
  intro value rest ran
  unfold readValue at ran
  split at ran
  · split at ran
    · cases ran
    · rename_i read
      cases ran
      exact .text (string_follows _ _ _ _ read)
  · rename_i left
    have shorter : (skip left).length < left.length + 1 := Nat.lt_succ_of_le (skip_length_le left)
    split at ran
    · rename_i closed
      cases ran
      exact .noItems closed
    · rename_i opened
      split at ran
      · cases ran
      · rename_i taken
        cases ran
        exact .items (fun after same => opened after same) (ofItems _ shorter _ _ taken)
  · rename_i left
    have shorter : (skip left).length < left.length + 1 := Nat.lt_succ_of_le (skip_length_le left)
    split at ran
    · rename_i closed
      cases ran
      exact .noMembers closed
    · rename_i opened
      split at ran
      · cases ran
      · rename_i taken
        cases ran
        exact .members (fun after same => opened after same) (ofMembers _ shorter _ _ taken)
  · rename_i noText noList noObject
    exact .plain noText noList noObject ran

theorem items_sound (ofValue : ValueSound t) (ofItems : ∀ u, u.length < t.length → ItemsSound u) :
    ItemsSound t := by
  intro items rest ran
  unfold readItems at ran
  split at ran
  · cases ran
  · rename_i item start first
    have read := ofValue _ _ first
    split at ran
    · rename_i closed
      cases ran
      exact .lastItem read closed
    · rename_i left comma
      have shorter : (skip left).length < t.length := by
        have fewer := skip_length_le left
        have taken := skip_length_le start.1
        have less := start.2
        rw [comma, List.length_cons] at taken
        omega
      split at ran
      · cases ran
      · rename_i others _ more
        cases ran
        exact .moreItems read comma (ofItems _ shorter _ _ more)
    · cases ran

theorem members_sound (ofValues : ∀ u, u.length < t.length → ValueSound u)
    (ofMembers : ∀ u, u.length < t.length → MembersSound u) : MembersSound t := by
  intro members rest ran
  unfold readMembers at ran
  split at ran
  · cases ran
  · rename_i name start named
    split at ran
    · cases ran
    · rename_i value inner first
      have read := ofValues _ start.2 _ _ first
      split at ran
      · rename_i closed
        cases ran
        exact .lastMember (name_follows named) read closed
      · rename_i left comma
        have shorter : (skip left).length < t.length := by
          have fewer := skip_length_le left
          have taken := skip_length_le inner.1
          have less := inner.2
          have behind := start.2
          rw [comma, List.length_cons] at taken
          omega
        split at ran
        · cases ran
        · rename_i others _ more
          cases ran
          exact .moreMembers (name_follows named) read comma (ofMembers _ shorter _ _ more)
      · cases ran

theorem readers_sound (t : Text) : ValueSound t ∧ ItemsSound t ∧ MembersSound t := by
  induction lengths : t.length using Nat.strongRecOn generalizing t with
  | ind n ih =>
    have shorter : ∀ u : Text, u.length < t.length → ValueSound u ∧ ItemsSound u ∧ MembersSound u :=
      fun u less => ih u.length (lengths ▸ less) u rfl
    have values := value_sound (fun u less => (shorter u less).2.1) fun u less => (shorter u less).2.2
    exact ⟨values, items_sound values fun u less => (shorter u less).2.1,
      members_sound (fun u less => (shorter u less).1) fun u less => (shorter u less).2.2⟩

/-! ### What follows the grammar is read -/

/-- The reader for a part succeeds with this. -/
def Succeeds : Part → Text → Sample → Text → Prop
  | .value, t, value, rest => ∃ left, readValue t = .ok (value, left) ∧ left.1 = rest
  | .items, t, .list items, rest => ∃ left, readItems t = .ok (items, left) ∧ left.1 = rest
  | .members, t, .object members, rest => ∃ left, readMembers t = .ok (members, left) ∧ left.1 = rest
  | _, _, _, _ => False

theorem empty_list_read {left : Text} (closed : skip left = .scalar ']' :: rest) :
    Succeeds .value (.scalar '[' :: left) (.list []) rest := by
  unfold Succeeds readValue
  simp only
  split
  · rename_i other
    cases closed.symm.trans other
    exact ⟨_, rfl, rfl⟩
  · rename_i other
    exact absurd closed (other rest)

theorem empty_object_read {left : Text} (closed : skip left = .scalar '\x7d' :: rest) :
    Succeeds .value (.scalar '\x7b' :: left) (.object []) rest := by
  unfold Succeeds readValue
  simp only
  split
  · rename_i other
    cases closed.symm.trans other
    exact ⟨_, rfl, rfl⟩
  · rename_i other
    exact absurd closed (other rest)

theorem last_item_read {behind : Rest t} (first : readValue t = .ok (value, behind))
    (closed : skip behind.1 = .scalar ']' :: rest) : Succeeds .items t (.list [value]) rest := by
  unfold Succeeds readItems
  simp only [first]
  split
  · rename_i other
    cases closed.symm.trans other
    exact ⟨_, rfl, rfl⟩
  · rename_i other
    cases closed.symm.trans other
  · rename_i other _
    exact absurd closed (other rest)

theorem more_items_read {left : Text} {behind : Rest t} (first : readValue t = .ok (value, behind))
    (comma : skip behind.1 = .scalar ',' :: left) (more : Succeeds .items (skip left) (.list items) rest) :
    Succeeds .items t (.list (value :: items)) rest := by
  obtain ⟨last, others, rfl⟩ := more
  unfold Succeeds readItems
  simp only [first]
  split
  · rename_i other
    cases comma.symm.trans other
  · rename_i other
    cases comma.symm.trans other
    simp only [others]
    exact ⟨_, rfl, rfl⟩
  · rename_i other
    exact absurd comma (other left)

theorem last_member_read {start : Rest t} {behind : Rest start.1} (named : readName t = .ok (name, start))
    (first : readValue start.1 = .ok (value, behind)) (closed : skip behind.1 = .scalar '\x7d' :: rest) :
    Succeeds .members t (.object [(name, value)]) rest := by
  unfold Succeeds readMembers
  simp only [named, first]
  split
  · rename_i other
    cases closed.symm.trans other
    exact ⟨_, rfl, rfl⟩
  · rename_i other
    cases closed.symm.trans other
  · rename_i other _
    exact absurd closed (other rest)

theorem more_members_read {left : Text} {start : Rest t} {behind : Rest start.1}
    (named : readName t = .ok (name, start)) (first : readValue start.1 = .ok (value, behind))
    (comma : skip behind.1 = .scalar ',' :: left)
    (more : Succeeds .members (skip left) (.object members) rest) :
    Succeeds .members t (.object ((name, value) :: members)) rest := by
  obtain ⟨last, others, rfl⟩ := more
  unfold Succeeds readMembers
  simp only [named, first]
  split
  · rename_i other
    cases comma.symm.trans other
  · rename_i other
    cases comma.symm.trans other
    simp only [others]
    exact ⟨_, rfl, rfl⟩
  · rename_i other
    exact absurd comma (other left)

theorem reads_succeeds (reads : Reads part t value rest) : Succeeds part t value rest := by
  induction reads with
  | @text left value rest spelled =>
    obtain ⟨last, read, rfl⟩ := string_read (.scalar '"' :: left) spelled
    unfold Succeeds readValue
    simp only [read]
    exact ⟨_, rfl, rfl⟩
  | noItems closed => exact empty_list_read closed
  | items opened inner ih =>
    obtain ⟨last, read, rfl⟩ := ih
    unfold Succeeds readValue
    simp only [read]
    exact ⟨_, rfl, rfl⟩
  | noMembers closed => exact empty_object_read closed
  | members opened inner ih =>
    obtain ⟨last, read, rfl⟩ := ih
    unfold Succeeds readValue
    simp only [read]
    exact ⟨_, rfl, rfl⟩
  | @plain t value rest noText noList noObject read =>
    refine ⟨rest, ?_, rfl⟩
    rw [readValue.eq_4 t noText noList noObject]
    exact read
  | lastItem first closed ih =>
    obtain ⟨behind, read, rfl⟩ := ih
    exact last_item_read read closed
  | moreItems first comma more ih ihMore =>
    obtain ⟨behind, read, rfl⟩ := ih
    exact more_items_read read comma ihMore
  | lastMember named first closed ih =>
    obtain ⟨start, nameRead, rfl⟩ := name_read named
    obtain ⟨behind, read, rfl⟩ := ih
    exact last_member_read nameRead read closed
  | moreMembers named first comma more ih ihMore =>
    obtain ⟨start, nameRead, rfl⟩ := name_read named
    obtain ⟨behind, read, rfl⟩ := ih
    exact more_members_read nameRead read comma ihMore

/-! ### Documents -/

theorem reads_iff : Reads .value t value rest ↔ ∃ left, readValue t = .ok (value, left) ∧ left.1 = rest := by
  refine ⟨reads_succeeds, ?_⟩
  rintro ⟨left, read, rfl⟩
  exact (readers_sound t).1 value left read

/-- A text holds a document exactly if it reads as a value with nothing but separators around it,
and does not begin with a byte order mark. -/
theorem read_ok_iff : Sample.read t = .ok value ↔ (∀ left, t ≠ .scalar '\uFEFF' :: left) ∧
    ∃ rest, Reads .value (skip t) value rest ∧ skip rest = [] := by
  have document : Sample.read t = .ok value ↔ readDocument t = .ok value := by
    unfold Sample.read
    cases readDocument t <;> simp
  rw [document]
  constructor
  · intro ran
    unfold readDocument at ran
    split at ran
    · cases ran
    · rename_i noMark
      split at ran
      · cases ran
      · rename_i rest read
        split at ran
        · rename_i ended
          cases ran
          exact ⟨noMark, rest.1, reads_iff.mpr ⟨rest, read, rfl⟩, ended⟩
        · cases ran
  · rintro ⟨noMark, rest, reads, ended⟩
    obtain ⟨left, read, rfl⟩ := reads_iff.mp reads
    rw [readDocument.eq_2 t noMark, read]
    simp only [ended]

/-! ### What is left of a text -/

theorem skip_suffix (t : Text) : skip t <:+ t := List.dropWhile_suffix _

theorem skipped_suffix {c : CodePoint} (shape : skip t = c :: u) : u <:+ t := by
  have ends := skip_suffix t
  rw [shape] at ends
  exact (List.suffix_cons c u).trans ends

theorem name_suffix (names : Names t name after) : after <:+ t := by
  cases names with
  | named spelled colon =>
    have inner := (skip_suffix _).trans (skipped_suffix colon)
    exact (inner.trans (spelled_suffix spelled)).trans (List.suffix_cons _ _)

theorem reads_suffix (reads : Reads part t value rest) : rest <:+ t := by
  induction reads with
  | text spelled => exact (spelled_suffix spelled).trans (List.suffix_cons _ _)
  | noItems closed => exact (skipped_suffix closed).trans (List.suffix_cons _ _)
  | items opened inner ih => exact (ih.trans (skip_suffix _)).trans (List.suffix_cons _ _)
  | noMembers closed => exact (skipped_suffix closed).trans (List.suffix_cons _ _)
  | members opened inner ih => exact (ih.trans (skip_suffix _)).trans (List.suffix_cons _ _)
  | plain noText noList noObject read => exact Numerals.plain_suffix read
  | lastItem first closed ih => exact (skipped_suffix closed).trans ih
  | moreItems first comma more ih ihMore =>
    exact (ihMore.trans (skip_suffix _)).trans ((skipped_suffix comma).trans ih)
  | lastMember named first closed ih => exact (skipped_suffix closed).trans (ih.trans (name_suffix named))
  | moreMembers named first comma more ih ihMore =>
    exact (ihMore.trans (skip_suffix _)).trans
      ((skipped_suffix comma).trans (ih.trans (name_suffix named)))

end ClassMold.Reading
