import ClassMold.Proofs.Sample.Documents

/-! Line ends of documents. A line only ends in a gap: words, numbers and strings hold no control
characters. So a text whose line ends are made one kind is a document exactly if it was one before,
and the same is written there. -/
namespace ClassMold.LineEnds
open Sample Spelling Numerals NumberForms RoundTrip Values Documents

/-- A text without control characters. -/
def Solid (t : Text) : Prop := ∀ c ∈ t, 0x20 ≤ c.val

instance : DecidablePred Solid := fun t => inferInstanceAs (Decidable (∀ c ∈ t, 0x20 ≤ c.val))

variable {t u own rest gap name : Text} {value written : Sample} {part : Reading.Part} {c : CodePoint} {n : Nat}

@[simp] theorem solid_append : Solid (t ++ u) ↔ Solid t ∧ Solid u := List.forall_mem_append

@[simp] theorem solid_cons : Solid (c :: t) ↔ 0x20 ≤ c.val ∧ Solid t := List.forall_mem_cons

/-! ### Tokens -/

theorem digit_solid {base v : Nat} (digit : c.digit? base = some v) : 0x20 ≤ c.val := by
  cases c with
  | surrogate offset => cases digit
  | scalar character =>
    obtain ⟨found, -⟩ := Option.filter_eq_some_iff.mp digit
    rw [CodePoint.val]
    split_ifs at found with decimal lower upper
    · have low : 0x30 ≤ character.toNat := decimal.1
      omega
    · have low : 0x61 ≤ character.toNat := lower.1
      omega
    · have low : 0x41 ≤ character.toNat := upper.1
      omega

theorem digits_solid (digits : ∀ c ∈ t, c.isAsciiDigit = true) : Solid t := by
  intro c listed
  obtain ⟨v, digit⟩ := Option.isSome_iff_exists.mp (digits c listed)
  exact digit_solid digit

theorem unit_solid {a b d : CodePoint} (unit : unit? a b c d = some n) : Solid [a, b, c, d] := by
  simp only [unit?, Option.bind_eq_bind, Option.bind_eq_some_iff] at unit
  obtain ⟨_, first, _, second, _, third, _, fourth, -⟩ := unit
  simp [digit_solid first, digit_solid second, digit_solid third, digit_solid fourth, Solid]

/-- The text in front of another one is without control characters. -/
def SolidBefore (t rest : Text) : Prop := ∀ c ∈ t, c ∈ rest ∨ 0x20 ≤ c.val

theorem solid_before (solid : Solid own) : SolidBefore (own ++ rest) rest := by
  intro c listed
  rcases List.mem_append.mp listed with inside | behind
  · exact .inr (solid c inside)
  · exact .inl behind

theorem SolidBefore.trans (first : SolidBefore t u) (second : SolidBefore u rest) : SolidBefore t rest := by
  intro c listed
  rcases first c listed with behind | solid
  · exact second c behind
  · exact .inr solid

theorem escape_solid (escape : Escapes t c u) : SolidBefore t u := by
  cases escape with
  | single unit => exact solid_before (unit_solid unit)
  | pair first _ second =>
    have slash : Solid [.scalar '\\', .scalar 'u'] := by decide
    refine (solid_before (unit_solid first)).trans ?_
    exact (solid_before slash).trans (solid_before (unit_solid second))

theorem short_solid {e : CodePoint} (escape : Sample.shortEscape? e = some c) : Solid [e] := by
  unfold Sample.shortEscape? at escape
  split at escape
  case h_9 => cases escape
  all_goals decide

theorem spelled_solid (spells : Spells t name rest) : SolidBefore t rest := by
  induction spells with
  | closed left =>
    have quote : Solid [.scalar '"'] := by decide
    exact solid_before quote
  | numeric escape more ih =>
    have start : Solid [.scalar '\\', .scalar 'u'] := by decide
    exact (solid_before start).trans ((escape_solid escape).trans ih)
  | short noNumber escape more ih =>
    have start : Solid [.scalar '\\'] := by decide
    exact (solid_before start).trans ((solid_before (short_solid escape)).trans ih)
  | bare noQuote noEscape noControl more ih =>
    have plain : Solid [_] := List.forall_mem_singleton.mpr (Nat.le_of_not_lt noControl)
    exact (solid_before plain).trans ih

theorem string_solid (spells : Spells t name []) : Solid t := by
  intro c listed
  rcases spelled_solid spells c listed with none | solid
  · cases none
  · exact solid

theorem fraction_solid {fraction digits : Text} (behind : Fraction fraction digits) : Solid fraction := by
  cases behind with
  | absent => exact List.forall_mem_nil _
  | present some => exact solid_cons.mpr ⟨by decide, digits_solid some.2⟩

theorem exponent_solid {exponent : Text} {power : Int} (raised : Exponent exponent power) : Solid exponent := by
  cases raised with
  | absent => exact List.forall_mem_nil _
  | present marked listed some =>
    have signs : ∀ entry ∈ exponentSigns, Solid entry.1 := by decide
    refine solid_cons.mpr ⟨?_, solid_append.mpr ⟨signs _ listed, digits_solid some.2⟩⟩
    rcases marked with rfl | rfl <;> decide

theorem signed_solid (negative : Bool) (solid : Solid t) : Solid (signed negative t) := by
  cases negative with
  | true => exact solid_cons.mpr ⟨by decide, solid⟩
  | false => exact solid

theorem number_solid (number : IsNumber t value) : Solid t := by
  have whole (n : Nat) : Solid (Text.ofNat n) := digits_solid (nat_all_digits n)
  cases number with
  | integer negative n => exact signed_solid negative (whole n)
  | float negative n behind raised =>
    refine signed_solid negative (solid_append.mpr ⟨whole n, solid_append.mpr ⟨?_, ?_⟩⟩)
    · exact fraction_solid behind
    · exact exponent_solid raised

theorem word_solid (listed : (t, value) ∈ wordValues) : Solid t := by
  have each : ∀ entry ∈ wordValues, Solid entry.1 := by decide
  exact each _ listed

/-! ### Line ends made one kind

A return with a line feed behind it is one line end, so a text can only be taken apart where no line
feed goes on. Only gaps have line ends in them, and behind a gap stands a token. -/

/-- A text that does not go on with a line end. -/
def Apart (t : Text) : Prop := t.head? ≠ some (.scalar '\n')

theorem unify_cons (noReturn : c ≠ .scalar '\r') (t : Text) :
    Text.unifyLineEnds (c :: t) = c :: t.unifyLineEnds :=
  Text.unifyLineEnds.eq_4 c t (fun _ same _ => noReturn same) noReturn

/-- Where no line end can go on, a text can be taken apart. -/
theorem unify_append (t : Text) (apart : Apart u) :
    (t ++ u).unifyLineEnds = t.unifyLineEnds ++ u.unifyLineEnds := by
  induction t using Text.unifyLineEnds.induct with
  | case1 => rfl
  | case2 rest ih =>
    rw [List.cons_append, List.cons_append, Text.unifyLineEnds, Text.unifyLineEnds, ih]
    rfl
  | case3 rest single ih =>
    have stillSingle : ∀ left, rest ++ u = .scalar '\n' :: left → False := by
      intro left same
      cases rest with
      | nil => exact apart (congrArg List.head? same)
      | cons c rest =>
        cases same
        exact single rest rfl
    rw [List.cons_append, Text.unifyLineEnds.eq_3 _ stillSingle, Text.unifyLineEnds.eq_3 _ single, ih]
    rfl
  | case4 c rest noPair noReturn ih =>
    rw [List.cons_append, unify_cons noReturn, unify_cons noReturn, ih]
    rfl

theorem unify_gap (blank : IsGap gap) : IsGap gap.unifyLineEnds := by
  induction gap using Text.unifyLineEnds.induct with
  | case1 => exact blank
  | case2 rest ih =>
    obtain ⟨-, left⟩ := List.forall_mem_cons.mp blank
    exact List.forall_mem_cons.mpr ⟨rfl, ih (List.forall_mem_cons.mp left).2⟩
  | case3 rest single ih =>
    rw [Text.unifyLineEnds.eq_3 rest single]
    exact List.forall_mem_cons.mpr ⟨rfl, ih (List.forall_mem_cons.mp blank).2⟩
  | case4 c rest noPair noReturn ih =>
    obtain ⟨own, left⟩ := List.forall_mem_cons.mp blank
    rw [unify_cons noReturn]
    exact List.forall_mem_cons.mpr ⟨own, ih left⟩

theorem solid_no_return (solid : 0x20 ≤ c.val) : c ≠ .scalar '\r' := by
  rintro rfl
  exact absurd solid (by decide)

/-- What stands first in a text with line ends of one kind is there already, or it is a line end. -/
theorem unify_first (first : t.unifyLineEnds = c :: rest) : ∃ own left, t = own ++ left ∧
    left.unifyLineEnds = rest ∧ (own = [c] ∨ c = .scalar '\n' ∧ IsGap own) := by
  cases t using Text.unifyLineEnds.fun_cases with
  | case1 => cases first
  | case2 left =>
    cases first
    exact ⟨[_, _], left, rfl, rfl, .inr ⟨rfl, by simp [IsGap, isSeparator]⟩⟩
  | case3 left single =>
    rw [Text.unifyLineEnds.eq_3 left single] at first
    cases first
    exact ⟨[_], left, rfl, rfl, .inr ⟨rfl, by simp [IsGap, isSeparator]⟩⟩
  | case4 d left noPair noReturn =>
    rw [unify_cons noReturn] at first
    cases first
    exact ⟨[c], left, rfl, rfl, .inl rfl⟩

theorem unify_nil (none : t.unifyLineEnds = []) : t = [] := by
  cases t using Text.unifyLineEnds.fun_cases with
  | case1 => rfl
  | case2 left => cases none
  | case3 left single =>
    rw [Text.unifyLineEnds.eq_3 left single] at none
    cases none
  | case4 c left noPair noReturn =>
    rw [unify_cons noReturn] at none
    cases none

/-! ### From any line ends to one kind -/

/-- A text turns into another one when line ends are made one kind, whatever stands behind it. -/
def Turns (t u : Text) : Prop := ∀ rest, (t ++ rest).unifyLineEnds = u ++ rest.unifyLineEnds

/-- A text that begins with something other than a line end. -/
def Begins (t : Text) : Prop := ∃ c ∈ t.head?, c ≠ .scalar '\n'

theorem opens_begins (opens : Opens t) : Begins t := by
  obtain ⟨c, first, noGap, -⟩ := opens
  refine ⟨c, first, ?_⟩
  rintro rfl
  cases noGap

theorem turns_append {t' u' : Text} (first : Turns t t') (second : Turns u u') :
    Turns (t ++ u) (t' ++ u') := by
  intro rest
  rw [List.append_assoc, first, second, List.append_assoc]

theorem turns_solid (solid : Solid t) : Turns t t := by
  intro rest
  induction t with
  | nil => rfl
  | cons c t ih =>
    obtain ⟨first, others⟩ := solid_cons.mp solid
    rw [List.cons_append, unify_cons (solid_no_return first), ih others, List.cons_append]

theorem turns_cons (solid : 0x20 ≤ c.val) (turns : Turns t u) : Turns (c :: t) (c :: u) :=
  turns_append (turns_solid (List.forall_mem_singleton.mpr solid)) turns

theorem turns_gap (gap : Text) (begins : Begins t) (turns : Turns t u) :
    Turns (gap ++ t) (gap.unifyLineEnds ++ u) := by
  intro rest
  have apart : Apart (t ++ rest) := by
    obtain ⟨c, first, other⟩ := begins
    obtain ⟨left, rfl⟩ := List.head?_eq_some_iff.mp first
    exact fun same => other (Option.some.inj same)
  rw [List.append_assoc, unify_append gap apart, turns, List.append_assoc]

/-- A sign behind a gap, and what goes on behind it. -/
theorem turns_sign (gap : Text) (solid : 0x20 ≤ c.val) (turns : Turns t u) :
    Turns (gap ++ c :: t) (gap.unifyLineEnds ++ c :: u) := by
  refine turns_gap gap ⟨c, rfl, ?_⟩ (turns_cons solid turns)
  rintro rfl
  exact absurd solid (by decide)

theorem name_turned (named : WritesName t name) (begins : Begins u) (turns : Turns u rest) :
    ∃ start, WritesName start name ∧ Turns (t ++ u) (start ++ rest) := by
  cases named with
  | @named spelled name gap gap' spells blank blank' =>
    refine ⟨_, .named spells (unify_gap blank) (unify_gap blank'), ?_⟩
    have whole : Turns (.scalar '"' :: (spelled ++ (gap ++ .scalar ':' :: (gap' ++ u)))) _ :=
      turns_cons (by decide) <| turns_append (turns_solid (string_solid spells)) <|
        turns_sign gap (by decide) (turns_gap gap' begins turns)
    simpa using whole

/-- What is written is written with line ends of one kind, too. -/
theorem written_turned (writes : Writes part t written) : ∃ u, Writes part u written ∧ Turns t u := by
  have ended : Turns [] [] := fun _ => rfl
  have closed (gap : Text) := turns_sign gap (by decide : 0x20 ≤ (CodePoint.scalar '\x7d').val) ended
  induction writes with
  | word listed => exact ⟨_, .word listed, turns_solid (word_solid listed)⟩
  | number number => exact ⟨_, .number number, turns_solid (number_solid number)⟩
  | string spells => exact ⟨_, .string spells, turns_cons (by decide) (turns_solid (string_solid spells))⟩
  | noItems blank =>
    exact ⟨_, .noItems (unify_gap blank), turns_cons (by decide) (turns_sign _ (by decide) ended)⟩
  | items blank written ih =>
    obtain ⟨inner, writes, turns⟩ := ih
    have begins := opens_begins (written_opens written)
    exact ⟨_, .items (unify_gap blank) writes, turns_cons (by decide) (turns_gap _ begins turns)⟩
  | noMembers blank =>
    exact ⟨_, .noMembers (unify_gap blank), turns_cons (by decide) (closed _)⟩
  | members blank written ih =>
    obtain ⟨inner, writes, turns⟩ := ih
    have begins := opens_begins (written_opens written)
    exact ⟨_, .members (unify_gap blank) writes, turns_cons (by decide) (turns_gap _ begins turns)⟩
  | lastItem first blank ih =>
    obtain ⟨own, writes, turns⟩ := ih
    exact ⟨_, .lastItem writes (unify_gap blank), turns_append turns (turns_sign _ (by decide) ended)⟩
  | moreItems first blank blank' others ih ihMore =>
    obtain ⟨own, writes, turns⟩ := ih
    obtain ⟨more, writesMore, turnsMore⟩ := ihMore
    have begins := opens_begins (written_opens others)
    exact ⟨_, .moreItems writes (unify_gap blank) (unify_gap blank') writesMore,
      turns_append turns (turns_sign _ (by decide) (turns_gap _ begins turnsMore))⟩
  | lastMember named first blank ih =>
    obtain ⟨own, writes, turns⟩ := ih
    have begins (u : Text) := opens_begins (opens_append (written_opens first) u)
    obtain ⟨start, writesName, whole⟩ := name_turned named (begins _) (turns_append turns (closed _))
    exact ⟨_, .lastMember writesName writes (unify_gap blank), whole⟩
  | @moreMembers _ _ gap gap' _ _ _ _ named first blank blank' others ih ihMore =>
    obtain ⟨own, writes, turns⟩ := ih
    obtain ⟨more, writesMore, turnsMore⟩ := ihMore
    have begins (u : Text) := opens_begins (opens_append (written_opens first) u)
    have behind := turns_gap gap' (opens_begins (written_opens others)) turnsMore
    have comma := turns_sign gap (by decide : 0x20 ≤ (CodePoint.scalar ',').val) behind
    obtain ⟨start, writesName, whole⟩ := name_turned named (begins _) (turns_append turns comma)
    exact ⟨_, .moreMembers writesName writes (unify_gap blank) (unify_gap blank') writesMore, whole⟩

/-! ### From line ends of one kind to any -/

/-- Where line ends of one kind make this text out of another one, that one begins with a text of a
language. -/
def Comes (language : Text → Prop) (t : Text) : Prop :=
  ∀ u rest, u.unifyLineEnds = t ++ rest →
    ∃ own left, u = own ++ left ∧ left.unifyLineEnds = rest ∧ language own

theorem comes_solid (solid : Solid t) : Comes (· = t) t := by
  induction t with
  | nil => exact fun u rest same => ⟨[], u, rfl, same, rfl⟩
  | cons c t ih =>
    intro u rest same
    obtain ⟨first, others⟩ := solid_cons.mp solid
    obtain ⟨own, left, rfl, goesOn, rfl | ⟨rfl, -⟩⟩ := unify_first same
    · obtain ⟨own, more, rfl, last, held⟩ := ih others left rest goesOn
      exact ⟨c :: own, more, rfl, last, congrArg _ held⟩
    · exact absurd first (by decide)

theorem comes_gap (blank : IsGap gap) : Comes IsGap gap := by
  induction gap with
  | nil => exact fun u rest same => ⟨[], u, rfl, same, blank⟩
  | cons c gap ih =>
    intro u rest same
    obtain ⟨separates, others⟩ := List.forall_mem_cons.mp blank
    obtain ⟨own, left, rfl, goesOn, kind⟩ := unify_first same
    obtain ⟨more, last, rfl, ends, blanks⟩ := ih others left rest goesOn
    refine ⟨own ++ more, last, (List.append_assoc ..).symm, ends, List.forall_mem_append.mpr ⟨?_, blanks⟩⟩
    rcases kind with rfl | ⟨-, gap⟩
    · exact List.forall_mem_singleton.mpr separates
    · exact gap

section Languages

variable {language other : Text → Prop}

theorem comes_append (first : Comes language t) (second : Comes other u) :
    Comes (fun whole => ∃ own more, language own ∧ other more ∧ whole = own ++ more) (t ++ u) := by
  intro v rest same
  rw [List.append_assoc] at same
  obtain ⟨own, left, rfl, goesOn, held⟩ := first v _ same
  obtain ⟨more, last, rfl, ends, heldToo⟩ := second left rest goesOn
  exact ⟨own ++ more, last, (List.append_assoc ..).symm, ends, own, more, held, heldToo, rfl⟩

theorem comes_cons (solid : 0x20 ≤ c.val) (comes : Comes language t) :
    Comes (fun whole => ∃ more, language more ∧ whole = c :: more) (c :: t) := by
  intro u rest same
  have first := comes_append (comes_solid (List.forall_mem_singleton.mpr solid : Solid [c])) comes
  obtain ⟨_, left, rfl, ends, _, more, rfl, held, rfl⟩ := first u rest same
  exact ⟨_, left, rfl, ends, more, held, rfl⟩

theorem Comes.mono (comes : Comes language t) (covers : ∀ own, language own → other own) : Comes other t := by
  intro u rest same
  obtain ⟨own, left, shape, ends, held⟩ := comes u rest same
  exact ⟨own, left, shape, ends, covers own held⟩

/-- A gap in front of a sign that closes something. -/
theorem comes_close (blank : IsGap gap) (solid : 0x20 ≤ c.val) :
    Comes (fun whole => ∃ gap, IsGap gap ∧ whole = gap ++ [c]) (gap ++ [c]) := by
  refine (comes_append (comes_gap blank) (comes_solid (List.forall_mem_singleton.mpr solid))).mono ?_
  rintro _ ⟨gap, _, blank, rfl, rfl⟩
  exact ⟨gap, blank, rfl⟩

/-- A comma between gaps, and what goes on behind it. -/
theorem comes_comma {gap' : Text} (blank : IsGap gap) (blank' : IsGap gap') (comes : Comes language t) :
    Comes (fun whole => ∃ gap gap' more, IsGap gap ∧ IsGap gap' ∧ language more ∧
      whole = gap ++ .scalar ',' :: (gap' ++ more)) (gap ++ .scalar ',' :: (gap' ++ t)) := by
  have behind := comes_cons (by decide : 0x20 ≤ (CodePoint.scalar ',').val)
    (comes_append (comes_gap blank') comes)
  refine (comes_append (comes_gap blank) behind).mono ?_
  rintro _ ⟨gap, _, blank, ⟨_, ⟨gap', more, blank', held, rfl⟩, rfl⟩, rfl⟩
  exact ⟨gap, gap', more, blank, blank', held, rfl⟩

end Languages

theorem name_comes (named : WritesName t name) : Comes (WritesName · name) t := by
  cases named with
  | @named spelled name gap gap' spells blank blank' =>
    have whole := comes_cons (by decide : 0x20 ≤ (CodePoint.scalar '"').val) <|
      comes_append (comes_solid (string_solid spells)) <| comes_append (comes_gap blank) <|
        comes_cons (by decide : 0x20 ≤ (CodePoint.scalar ':').val) (comes_gap blank')
    refine whole.mono ?_
    rintro _ ⟨_, ⟨_, _, rfl, ⟨_, _, blank, ⟨_, blank', rfl⟩, rfl⟩, rfl⟩, rfl⟩
    exact .named spells blank blank'

/-- What is written with line ends of one kind is written with those that were there, too. -/
theorem written_comes (writes : Writes part t written) : Comes (Writes part · written) t := by
  induction writes with
  | word listed =>
    refine (comes_solid (word_solid listed)).mono ?_
    rintro _ rfl
    exact .word listed
  | number number =>
    refine (comes_solid (number_solid number)).mono ?_
    rintro _ rfl
    exact .number number
  | string spells =>
    refine (comes_cons (by decide) (comes_solid (string_solid spells))).mono ?_
    rintro _ ⟨_, rfl, rfl⟩
    exact .string spells
  | noItems blank =>
    refine (comes_cons (by decide) (comes_close blank (by decide))).mono ?_
    rintro _ ⟨_, ⟨_, blank, rfl⟩, rfl⟩
    exact .noItems blank
  | items blank written ih =>
    refine (comes_cons (by decide) (comes_append (comes_gap blank) ih)).mono ?_
    rintro _ ⟨_, ⟨_, _, blank, inner, rfl⟩, rfl⟩
    exact .items blank inner
  | noMembers blank =>
    refine (comes_cons (by decide) (comes_close blank (by decide))).mono ?_
    rintro _ ⟨_, ⟨_, blank, rfl⟩, rfl⟩
    exact .noMembers blank
  | members blank written ih =>
    refine (comes_cons (by decide) (comes_append (comes_gap blank) ih)).mono ?_
    rintro _ ⟨_, ⟨_, _, blank, inner, rfl⟩, rfl⟩
    exact .members blank inner
  | lastItem first blank ih =>
    refine (comes_append ih (comes_close blank (by decide))).mono ?_
    rintro _ ⟨_, _, own, ⟨_, blank, rfl⟩, rfl⟩
    exact .lastItem own blank
  | moreItems first blank blank' others ih ihMore =>
    refine (comes_append ih (comes_comma blank blank' ihMore)).mono ?_
    rintro _ ⟨_, _, own, ⟨_, _, _, blank, blank', more, rfl⟩, rfl⟩
    exact .moreItems own blank blank' more
  | lastMember named first blank ih =>
    refine (comes_append (name_comes named) (comes_append ih (comes_close blank (by decide)))).mono ?_
    rintro _ ⟨_, _, named, ⟨_, _, own, ⟨_, blank, rfl⟩, rfl⟩, rfl⟩
    exact .lastMember named own blank
  | moreMembers named first blank blank' others ih ihMore =>
    refine (comes_append (name_comes named) (comes_append ih (comes_comma blank blank' ihMore))).mono ?_
    rintro _ ⟨_, _, named, ⟨_, _, own, ⟨_, _, _, blank, blank', more, rfl⟩, rfl⟩, rfl⟩
    exact .moreMembers named own blank blank' more

/-! ### Documents -/

/-- A text is a document whatever its line ends are. -/
theorem document_unified (t : Text) (written : Sample) :
    IsDocument t.unifyLineEnds written ↔ IsDocument t written := by
  constructor
  · rintro ⟨before, own, after, blank, blank', writes, same⟩
    have whole := comes_append (comes_gap blank) (comes_append (written_comes writes) (comes_gap blank'))
    rw [← List.append_nil (before ++ (own ++ after))] at same
    obtain ⟨_, left, rfl, ends, before, _, blank, ⟨own, after, writes, blank', rfl⟩, rfl⟩ := whole t [] same
    rw [unify_nil ends, List.append_nil]
    exact ⟨before, own, after, blank, blank', writes, rfl⟩
  · rintro ⟨before, own, after, blank, blank', writes, rfl⟩
    obtain ⟨u, writesToo, turns⟩ := written_turned writes
    have whole := turns_gap before (opens_begins (written_opens writes)) turns after
    rw [List.append_assoc, List.append_assoc] at whole
    exact ⟨_, u, _, unify_gap blank, unify_gap blank', writesToo, whole⟩

end ClassMold.LineEnds
