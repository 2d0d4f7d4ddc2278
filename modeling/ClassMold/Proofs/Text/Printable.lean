import ClassMold.Document.Printer
import ClassMold.Identifier
import ClassMold.Proofs.Source.Parts
import ClassMold.Proofs.Text.Bytes
import ClassMold.Text.Quoted

/-! Which texts have bytes. A text can be printed unless a surrogate stands alone in it, and
nearly all that the program puts together is free of these: fixed wordings, numbers,
identifiers, quoted texts and whole documents. -/
namespace ClassMold.Printable
open CodePoint Alphabet

/-- A text in which no surrogate stands alone. -/
def IsPrintable (t : Text) : Prop := ∀ c ∈ t, Utf8.isSurrogate c = false

instance : DecidablePred IsPrintable := fun t =>
  inferInstanceAs (Decidable (∀ c ∈ t, Utf8.isSurrogate c = false))

variable {c : CodePoint} {t u : Text} {style : Binary64.Style}

@[simp] theorem printable_nil : IsPrintable [] := List.forall_mem_nil _

@[simp] theorem printable_cons :
    IsPrintable (c :: t) ↔ Utf8.isSurrogate c = false ∧ IsPrintable t := List.forall_mem_cons

@[simp] theorem printable_append : IsPrintable (t ++ u) ↔ IsPrintable t ∧ IsPrintable u :=
  List.forall_mem_append

@[simp] theorem scalar_no_surrogate (c : Char) : Utf8.isSurrogate (.scalar c) = false := rfl

/-! ### Bytes -/

theorem encode_from_ok_iff (position : Nat) (t : Text) :
    (∃ bytes, Utf8.encodeFrom position t = .ok bytes) ↔ IsPrintable t := by
  induction t generalizing position with
  | nil => simp [Utf8.encodeFrom]
  | cons c t ih =>
    cases c with
    | surrogate offset => simp [Utf8.encodeFrom, Utf8.isSurrogate]
    | scalar c =>
      have rest := ih (position + 1)
      cases encoded : Utf8.encodeFrom (position + 1) t with
      | error e => simpa [Utf8.encodeFrom, encoded] using rest
      | ok bytes => simpa [Utf8.encodeFrom, encoded] using rest

/-- A text has bytes if it can be printed. -/
theorem encode_ok_iff : (∃ bytes, Utf8.encode t = .ok bytes) ↔ IsPrintable t := encode_from_ok_iff 0 t

/-- Bytes hold no surrogate that stands alone. -/
theorem decode_printable {bytes : Bytes} (decoded : Utf8.decode bytes = .ok t) : IsPrintable t :=
  encode_ok_iff.mp ⟨bytes, (Encoded.decode_iff_encode bytes t).mp decoded⟩

/-! ### Pieces -/

theorem printable_scalars (characters : List Char) : IsPrintable (characters.map .scalar) :=
  List.forall_mem_map.mpr fun _ _ => rfl

@[simp] theorem printable_string (s : String) : IsPrintable (Text.ofString s) := printable_scalars _

@[simp] theorem printable_nat (n : Nat) : IsPrintable (Text.ofNat n) := printable_scalars _

@[simp] theorem printable_int (n : Int) : IsPrintable (Text.ofInt n) := by
  cases n with
  | ofNat n => exact printable_nat n
  | negSucc n => exact printable_cons.mpr ⟨rfl, printable_nat _⟩

@[simp] theorem printable_replicate (count : Nat) (character : Char) :
    IsPrintable (List.replicate count (.scalar character)) := by
  intro c listed
  rw [List.eq_of_mem_replicate listed]
  rfl

@[simp] theorem printable_hex (width n : Nat) : IsPrintable (Text.hex width n) :=
  printable_append.mpr ⟨printable_replicate _ _, printable_scalars _⟩

@[simp] theorem printable_padded (width n : Nat) : IsPrintable (Text.padded width n) :=
  printable_append.mpr ⟨printable_replicate _ _, printable_nat _⟩

theorem printable_join_iff {lines : List Text} (separator : IsPrintable t) :
    IsPrintable (Text.joinWith t lines) ↔ ∀ line ∈ lines, IsPrintable line := by
  refine ⟨fun joined => ?_, Parts.join_all separator⟩
  induction lines using Text.joinWith.induct with
  | case1 => exact List.forall_mem_nil _
  | case2 line => simpa [Text.joinWith] using joined
  | case3 line rest more ih =>
    rw [Text.joinWith] at joined
    · simp only [printable_append] at joined
      exact List.forall_mem_cons.mpr ⟨joined.1.1, ih joined.2⟩
    · assumption

theorem printable_flat_map {α : Type} {items : List α} {form : α → Text}
    (each : ∀ item ∈ items, IsPrintable (form item)) : IsPrintable (items.flatMap form) := by
  intro c listed
  obtain ⟨item, held, inside⟩ := List.mem_flatMap.mp listed
  exact each item held c inside

theorem printable_part {part : Text} (printable : IsPrintable t) (inside : ∀ c ∈ part, c ∈ t) :
    IsPrintable part := fun c listed => printable c (inside c listed)

/-! ### Identifiers -/

/-- Ranges of numbers that no surrogate has. -/
def Surrogateless (ranges : List (Nat × Nat)) : Prop :=
  ∀ range ∈ ranges, range.2 < 0xD800 ∨ 0xE000 ≤ range.1

instance (ranges : List (Nat × Nat)) : Decidable (Surrogateless ranges) :=
  inferInstanceAs (Decidable (∀ range ∈ ranges, _))

theorem within_no_surrogate {ranges : List (Nat × Nat)} (table : Surrogateless ranges)
    (held : c.within ranges = true) : Utf8.isSurrogate c = false := by
  cases c with
  | scalar c => rfl
  | surrogate offset =>
    simp only [within, List.any_eq_true, Bool.and_eq_true, decide_eq_true_eq] at held
    obtain ⟨range, listed, low, high⟩ := held
    have bound := offset.isLt
    rw [val] at low high
    rcases table range listed with below | above <;> omega

theorem continues_no_surrogate (continues : c.continuesIdentifier = true) :
    Utf8.isSurrogate c = false := by
  simp only [continuesIdentifier, startsIdentifier, Bool.or_eq_true] at continues
  rcases continues with (letter | other) | digit
  · exact within_no_surrogate (by decide +kernel : Surrogateless letterRanges) letter
  · exact within_no_surrogate (by decide : Surrogateless connectorOrCurrencyRanges) other
  · exact within_no_surrogate (by decide : Surrogateless decimalDigitRanges) digit

theorem identifier_printable (legal : t.isIdentifier = true) : IsPrintable t := by
  cases t with
  | nil => exact printable_nil
  | cons first rest =>
    simp only [Text.isIdentifier, Bool.and_eq_true, List.all_eq_true] at legal
    refine printable_cons.mpr ⟨continues_no_surrogate ?_, fun c listed => continues_no_surrogate (legal.2 c listed)⟩
    simp [continuesIdentifier, legal.1.2]

/-! ### Names from keys -/

/-- Spans of numbers that no surrogate has. -/
def Clear (first last : Int) : Prop := last < 0xD800 ∨ 0xE000 ≤ first

instance (first last : Int) : Decidable (Clear first last) := inferInstanceAs (Decidable (_ ∨ _))

theorem clear_closed : Closed Clear where
  inside := by
    intro first last n clear low high
    exact clear.imp (fun below => by omega) fun above => by omega
  natural := by
    intro n clear
    rcases clear with below | above
    · exact .inl (by omega)
    · exact .inr (by omega)
  replacement := by decide
  letters := by decide +kernel
  connectors := by decide
  digits := by decide
  upperSequences := by decide +kernel
  upperShifts := by decide +kernel
  lowerSequences := by decide +kernel
  lowerShifts := by decide +kernel

theorem clear_printable (made : Made Clear t) : IsPrintable t := by
  intro c listed
  cases c with
  | scalar c => rfl
  | surrogate offset =>
    have bound := offset.isLt
    have clear := made _ listed
    simp only [Clear, val] at clear
    omega

theorem type_name_printable (key : Text) : IsPrintable (typeName key) :=
  clear_printable (type_name_made clear_closed key)

theorem field_name_printable (key : Text) (isArray : Bool) : IsPrintable (fieldName key isArray) :=
  clear_printable (field_name_made clear_closed key isArray)

theorem singular_printable (key : Text) : IsPrintable (singular (typeName key)) :=
  clear_printable (singular_made (type_name_made clear_closed key))

/-! ### Quoted texts and literals -/

/-- A surrogate is among the code points that a message does not show. -/
theorem visible_no_surrogate (visible : c.isVisible = true) : Utf8.isSurrogate c = false := by
  cases c with
  | scalar c => rfl
  | surrogate offset =>
    have listed : (0xD7FC, 0xF8FF) ∈ hiddenRanges := by decide
    have hidden : (surrogate offset).within hiddenRanges = true := by
      refine List.any_eq_true.mpr ⟨_, listed, ?_⟩
      have bound := offset.isLt
      simp only [Bool.and_eq_true, decide_eq_true_eq]
      rw [val]
      omega
    simp [isVisible, hidden] at visible

theorem quoted_form_printable {quote : CodePoint} (plain : Utf8.isSurrogate quote = false) (c : CodePoint) :
    IsPrintable (quotedForm quote c) := by
  unfold quotedForm
  split
  · rename_i same
    rcases same with rfl | rfl <;> simp [plain]
  · split_ifs with _ _ _ visible
    · exact printable_string _
    · exact printable_string _
    · exact printable_string _
    · simpa using visible_no_surrogate visible
    all_goals simp

@[simp] theorem printable_quoted (t : Text) : IsPrintable t.quoted := by
  unfold Text.quoted
  simp only [List.cons_append, printable_cons, printable_append, printable_nil, and_true,
    scalar_no_surrogate, true_and]
  exact printable_flat_map fun c _ => quoted_form_printable rfl c

theorem short_escape_printable {escape : Text} (short : c.shortEscape? = some escape) :
    IsPrintable escape := by
  unfold shortEscape? at short
  split at short <;> cases short <;> exact printable_string _

@[simp] theorem printable_unit_escape (n : Nat) : IsPrintable (unitEscape n) := by
  simp [unitEscape]

theorem ascii_escape_printable (c : CodePoint) : IsPrintable c.asciiEscape := by
  unfold asciiEscape
  split
  · rename_i short
    exact short_escape_printable short
  · split_ifs with printed
    · cases c with
      | scalar c => simp
      | surrogate offset =>
        simp only [val] at printed
        omega
    all_goals simp

@[simp] theorem printable_ascii_literal (t : Text) : IsPrintable t.asciiLiteral := by
  simp only [Text.asciiLiteral, List.cons_append, printable_cons, printable_append, printable_nil,
    and_true, scalar_no_surrogate, true_and]
  exact printable_flat_map fun c _ => ascii_escape_printable c

theorem plain_escape_printable (plain : Utf8.isSurrogate c = false) : IsPrintable c.plainEscape := by
  unfold plainEscape
  split
  · rename_i short
    exact short_escape_printable short
  · split
    · simp
    · simpa using plain

theorem literal_printable (printable : IsPrintable t) : IsPrintable t.literal := by
  simp only [Text.literal, List.cons_append, printable_cons, printable_append, printable_nil,
    and_true, scalar_no_surrogate, true_and]
  exact printable_flat_map fun c listed => plain_escape_printable (printable c listed)

/-! ### Numbers -/

theorem layout_printable {digits : Text} (printable : IsPrintable digits) (position : Int) :
    IsPrintable (style.layout digits position) := by
  have exponent (n : Int) : IsPrintable (style.exponent n) := by
    unfold Binary64.Style.exponent
    split_ifs <;> simp
  unfold Binary64.Style.layout Binary64.zeros
  split
  · split
    · simp [printable]
    · split
      · simp [printable]
      · have front := printable_part printable fun c => List.mem_of_mem_take (i := position.toNat)
        have back := printable_part printable fun c => List.mem_of_mem_drop (i := position.toNat)
        simp [front, back]
  · split <;> simp_all

theorem trimmed_printable {digits : Text} (printable : IsPrintable digits) :
    IsPrintable (Binary64.trimZeros digits) := by
  refine printable_part printable fun c listed => ?_
  have kept := (List.dropWhile_sublist _).mem (List.mem_reverse.mp listed)
  exact List.mem_reverse.mp kept

@[simp] theorem printable_number (style : Binary64.Style) (x : Binary64) : IsPrintable (x.render style) := by
  unfold Binary64.render
  split
  · simp
  · split <;> simp
  · rename_i negative significand exponent
    have sign : IsPrintable (if negative = true then Text.ofString "-" else "") := by
      split <;> simp
    dsimp only
    split
    · simp [sign]
    · exact printable_append.mpr ⟨sign, layout_printable (trimmed_printable (printable_nat _)) _⟩

/-! ### Documents -/

/-- All texts in a document, its keys included, are of a kind. -/
inductive HoldsTexts (P : Text → Prop) : Document → Prop where
  | null : HoldsTexts P .null
  | bool (value : Bool) : HoldsTexts P (.bool value)
  | int (value : Int) : HoldsTexts P (.int value)
  | float (value : Binary64) : HoldsTexts P (.float value)
  | str {value : Text} (kind : P value) : HoldsTexts P (.str value)
  | list {items : List Document} (each : ∀ item ∈ items, HoldsTexts P item) :
      HoldsTexts P (.list items)
  | object {members : List (Text × Document)} (keys : ∀ member ∈ members, P member.1)
      (each : ∀ member ∈ members, HoldsTexts P member.2) : HoldsTexts P (.object members)

variable {literal : Text → Text} {depth : Nat}

@[simp] theorem printable_line_break (depth : Nat) : IsPrintable (Document.lineBreak depth) := by
  simp [Document.lineBreak]

theorem items_printable {items : List Document}
    (each : ∀ item ∈ items, IsPrintable (item.pretty literal depth)) :
    IsPrintable (Document.prettyItems literal depth items) := by
  induction items with
  | nil => simp [Document.prettyItems]
  | cons item rest ih =>
    obtain ⟨first, others⟩ := List.forall_mem_cons.mp each
    simp [Document.prettyItems, first, ih others]

theorem members_printable {members : List (Text × Document)}
    (keys : ∀ member ∈ members, IsPrintable (literal member.1))
    (each : ∀ member ∈ members, IsPrintable (member.2.pretty literal depth)) :
    IsPrintable (Document.prettyMembers literal depth members) := by
  induction members with
  | nil => simp [Document.prettyMembers]
  | cons member rest ih =>
    obtain ⟨name, names⟩ := List.forall_mem_cons.mp keys
    obtain ⟨first, others⟩ := List.forall_mem_cons.mp each
    simp [Document.prettyMembers, name, first, ih names others]

/-- A document can be printed if the literals of its texts can. -/
theorem document_printable {P : Text → Prop} {document : Document} (holds : HoldsTexts P document)
    (kind : ∀ t, P t → IsPrintable (literal t)) (depth : Nat) :
    IsPrintable (document.pretty literal depth) := by
  induction holds generalizing depth with
  | null => simp [Document.pretty]
  | bool value => cases value <;> simp [Document.pretty]
  | int value => simp [Document.pretty]
  | float value => simp [Document.pretty]
  | str held => simpa [Document.pretty] using kind _ held
  | @list items each ih =>
    cases items with
    | nil => simp [Document.pretty]
    | cons first rest =>
      obtain ⟨head, others⟩ := List.forall_mem_cons.mp ih
      have more := items_printable fun item listed => others item listed (depth + 1)
      simp [Document.pretty, head (depth + 1), more]
  | @object members keys each ih =>
    cases members with
    | nil => simp [Document.pretty]
    | cons member rest =>
      obtain ⟨head, others⟩ := List.forall_mem_cons.mp ih
      obtain ⟨name, names⟩ := List.forall_mem_cons.mp keys
      have more := members_printable (fun member listed => kind _ (names member listed))
        fun member listed => others member listed (depth + 1)
      simp [Document.pretty, kind _ name, head (depth + 1), more]

/-- Texts are all of the kind that every text is of. -/
theorem holds_any : (document : Document) → HoldsTexts (fun _ => True) document
  | .null => .null
  | .bool value => .bool value
  | .int value => .int value
  | .float value => .float value
  | .str _ => .str trivial
  | .list items => .list fun item _ => holds_any item
  | .object members => .object (fun _ _ => trivial) fun member listed =>
      have smaller : sizeOf member.2 < sizeOf members := by
        have whole := List.sizeOf_lt_of_mem listed
        cases member
        simp only [Prod.mk.sizeOf_spec] at whole ⊢
        omega
      holds_any member.2

/-- A document whose texts are written in plain letters can be printed whatever they are. -/
@[simp] theorem ascii_document_printable (document : Document) (depth : Nat) :
    IsPrintable (document.pretty Text.asciiLiteral depth) :=
  document_printable (holds_any document) (fun t _ => printable_ascii_literal t) depth

end ClassMold.Printable
