import ClassMold.Markup.Token

/-!
The tokens that hold text: plain scalars, quoted ones and blocks. In plain and quoted scalars a single
line break stands for a space and the spaces around it count for nothing; a block keeps its lines or
folds them, and its last line breaks are chomped as its header says.
-/
namespace ClassMold
namespace Markup

/-! ### Plain scalars -/

/-- Whether a plain scalar ends at a code point, which may depend on the one after it. -/
def endsPlain (inFlow : Bool) (c : CodePoint) (after : Option CodePoint) : Bool :=
  endsWord (some c) ||
    (c == .scalar ':' && (endsWord after || (inFlow && isAmong [',', '[', ']', '\x7b', '\x7d'] after))) ||
    (inFlow && isAmong [',', '?', '[', ']', '\x7b', '\x7d'] (some c))

/-- What a line break and the breaks of the empty lines after it stand for. -/
def foldBreaks (first : CodePoint) (others : Text) : Text :=
  if first ≠ .scalar '\n' then first :: others
  else if others = [] then [.scalar ' ']
  else others

/-- What stands between two lines of a scalar. -/
structure Between where
  /-- The breaks of empty lines. -/
  breaks : Text
  /-- Whether a separator between documents follows. -/
  separated : Bool
  cursor : Cursor

/-- The empty lines from here on. -/
def emptyLines (c : Cursor) : Between :=
  let start := c.skipWhile isSpace
  match _taken : start.takeBreak? with
  | none => ⟨[], false, start⟩
  | some (b, next) =>
    if next.atSeparator then ⟨[b], true, next⟩
    else
      let others := emptyLines next
      { others with breaks := b :: others.breaks }
termination_by c.size
decreasing_by
  exact Nat.lt_of_lt_of_le (Cursor.takeBreak?_size_lt _taken) (Cursor.skipWhile_size_le _ _)

theorem emptyLines_size_le (c : Cursor) : (emptyLines c).cursor.size ≤ c.size := by
  fun_induction emptyLines c with
  | case1 c start _ => exact Cursor.skipWhile_size_le _ c
  | case2 c start _ next taken _ =>
    exact Nat.le_of_lt (Nat.lt_of_lt_of_le (Cursor.takeBreak?_size_lt taken)
      (Cursor.skipWhile_size_le _ c))
  | case3 c start _ next taken _ others ih =>
    exact Nat.le_trans ih (Nat.le_of_lt (Nat.lt_of_lt_of_le (Cursor.takeBreak?_size_lt taken)
      (Cursor.skipWhile_size_le _ c)))

/-- What stands between two runs of a plain scalar. -/
structure PlainGap where
  /-- What it stands for; nothing before a separator between documents. -/
  text : Text
  /-- Whether a line ends in it. -/
  breaksLine : Bool
  cursor : Cursor

/-- The gap of a plain scalar that starts here. -/
def plainGap (c : Cursor) : PlainGap :=
  let (spaces, start) := c.takeWhile isSpace
  match start.takeBreak? with
  | none => ⟨spaces, false, start⟩
  | some (b, next) =>
    if next.atSeparator then ⟨[], true, next⟩
    else
      let lines := emptyLines next
      ⟨if lines.separated then [] else foldBreaks b lines.breaks, true, lines.cursor⟩

theorem plainGap_size_le (c : Cursor) : (plainGap c).cursor.size ≤ c.size := by
  have spaces := Cursor.skipWhile_size_le isSpace c
  unfold Cursor.skipWhile at spaces
  unfold plainGap
  simp only
  split
  · exact spaces
  · next next taken =>
    have shorter := Cursor.takeBreak?_size_lt taken
    split
    · exact Nat.le_of_lt (Nat.lt_of_lt_of_le shorter spaces)
    · have := emptyLines_size_le next
      simp only
      omega

/-- A plain scalar. -/
structure PlainScalar where
  content : Text
  /-- The end of its last run. -/
  stop : Place
  /-- Whether the gap after that ends a line. -/
  breaksLine : Bool
  cursor : Cursor

/-- The runs of a plain scalar from here on, after a gap. -/
def plainRuns (inFlow : Bool) (indent : Int) (content gap : Text) (stop : Place) (breaksLine : Bool)
    (c : Cursor) : PlainScalar :=
  if isChar '#' c.peek then ⟨content, stop, breaksLine, c⟩
  else
    match _taken : c.takeUntil (endsPlain inFlow) with
    | ([], _) => ⟨content, stop, breaksLine, c⟩
    | (first :: run, last) =>
      let content := content ++ gap ++ first :: run
      let next := plainGap last
      if next.text = [] ∨ (inFlow = false ∧ next.cursor.place.column < indent) then
        ⟨content, last.place, next.breaksLine, next.cursor⟩
      else plainRuns inFlow indent content next.text last.place next.breaksLine next.cursor
termination_by c.size
decreasing_by
  exact Nat.lt_of_le_of_lt (plainGap_size_le last)
    (Cursor.takeUntil_size_lt _taken (List.cons_ne_nil first run))

/-- The plain scalar that starts here, whose further lines are indented at least so far. -/
def scanPlain (inFlow : Bool) (indent : Int) (c : Cursor) : PlainScalar :=
  plainRuns inFlow indent [] [] c.place false c

/-! ### Quoted scalars -/

/-- The breaks of the empty lines from the start of a line on. -/
def quotedBreaks (start : Place) (c : Cursor) : Except Refusal (Text × Cursor) :=
  if c.atSeparator then refuse (Flaw.separatorInQuotes.during .scanningQuoted start c.place)
  else
    let line := c.skipWhile isGap
    match _taken : line.takeBreak? with
    | none => .ok ([], line)
    | some (b, next) =>
      match quotedBreaks start next with
      | .error e => .error e
      | .ok (others, last) => .ok (b :: others, last)
termination_by c.size
decreasing_by
  exact Nat.lt_of_lt_of_le (Cursor.takeBreak?_size_lt _taken) (Cursor.skipWhile_size_le _ _)

/-- The gap of a quoted scalar that starts here. -/
def quotedGap (start : Place) (c : Cursor) : Except Refusal (Text × Cursor) := do
  let (spaces, line) := c.takeWhile isGap
  match line.takeBreak? with
  | some (b, next) =>
    let (others, last) ← quotedBreaks start next
    return (foldBreaks b others, last)
  | none =>
    if line.peek = none then refuse (Flaw.endInQuotes.during .scanningQuoted start line.place)
    else return (spaces, line)

/-- The code point that a backslash and one character stand for. -/
def shortEscape? : CodePoint → Option CodePoint
  | .scalar '0' => some (.scalar '\x00')
  | .scalar 'a' => some (.scalar '\x07')
  | .scalar 'b' => some (.scalar '\x08')
  | .scalar 't' => some (.scalar '\t')
  | .scalar '\t' => some (.scalar '\t')
  | .scalar 'n' => some (.scalar '\n')
  | .scalar 'v' => some (.scalar '\x0b')
  | .scalar 'f' => some (.scalar '\x0c')
  | .scalar 'r' => some (.scalar '\r')
  | .scalar 'e' => some (.scalar '\x1b')
  | .scalar ' ' => some (.scalar ' ')
  | .scalar '"' => some (.scalar '"')
  | .scalar '\\' => some (.scalar '\\')
  | .scalar '/' => some (.scalar '/')
  | .scalar 'N' => some (.scalar '\u0085')
  | .scalar '_' => some (.scalar '\u00a0')
  | .scalar 'L' => some (.scalar '\u2028')
  | .scalar 'P' => some (.scalar '\u2029')
  | _ => none

/-- The number of digits that follow a backslash and one letter. -/
def numericEscape? : CodePoint → Option Nat
  | .scalar 'x' => some 2
  | .scalar 'u' => some 4
  | .scalar 'U' => some 8
  | _ => none

/-- The code point of a number. -/
def codePoint (n : Nat) : Except Refusal CodePoint :=
  if n ≥ 0x80000000 then .error .hugeCodePoint
  else if n ≥ 0x110000 then .error .noCodePoint
  else .ok (.ofNat n)

/-- The number of an escape that has so many digits left, and the number of those before them. -/
def escapeNumber (start : Place) (length : Nat) (c : Cursor) : Except Refusal Nat :=
  let digits := (c.rest.take length).map (·.digit? 16)
  match digits.findIdx? Option.isNone with
  | some bad =>
    refuse ((Flaw.unexpected (.scalarEscape length) (c.ahead bad)).during .scanningDoubleQuoted start
      c.place)
  | none =>
    if digits.length < length then
      refuse ((Flaw.unexpected (.scalarEscape length) none).during .scanningDoubleQuoted start c.place)
    else .ok (Text.readDigits 16 (digits.filterMap id))

/-- What the escape stands for whose backslash has been passed. -/
def scanEscape (start : Place) (c : Cursor) : Except Refusal (Text × Cursor) := do
  match c.takeBreak? with
  | some (_, next) => quotedBreaks start next
  | none =>
    match c.peek.bind shortEscape? with
    | some meaning => return ([meaning], c.next)
    | none =>
      match c.peek.bind numericEscape? with
      | some length =>
        let number ← escapeNumber start length c.next
        let meaning ← codePoint number
        return ([meaning], c.next.forward length)
      | none =>
        refuse ((Flaw.unknownEscape c.peek).during .scanningDoubleQuoted start c.place)

/-- Whether a code point of a quoted scalar may stand for something else. -/
def isQuotedSpecial (c : CodePoint) : Bool := endsWord (some c) || isAmong ['\x27', '"', '\\'] (some c)

/-- The content of a quoted scalar from here on, and the cursor after its closing quote. Each part takes
something, so the count, which is the size of the text, bounds their number. -/
def quotedParts (double : Bool) (start : Place) : Nat → Cursor → Except Refusal (Text × Cursor)
  | 0, c => refuse (Flaw.endInQuotes.during .scanningQuoted start c.place)
  | count + 1, c =>
    match c.takeUntil fun d _ => isQuotedSpecial d with
    | (first :: run, next) => more (first :: run) next (quotedParts double start count)
    | ([], _) =>
      match c.peek with
      | some (.scalar '\x27') =>
        if double then more "'" c.next (quotedParts double start count)
        else if isChar '\x27' (c.ahead 1) then
          more "'" (c.forward 2) (quotedParts double start count)
        else .ok ([], c.next)
      | some (.scalar '"') =>
        if double then .ok ([], c.next) else more "\"" c.next (quotedParts double start count)
      | some (.scalar '\\') =>
        if double then
          match scanEscape start c.next with
          | .error e => .error e
          | .ok (part, next) => more part next (quotedParts double start count)
        else more "\\" c.next (quotedParts double start count)
      | _ =>
        match quotedGap start c with
        | .error e => .error e
        | .ok (part, next) => more part next (quotedParts double start count)
where
  /-- A part in front of those that follow. -/
  more (part : Text) (next : Cursor) (parts : Cursor → Except Refusal (Text × Cursor)) :
      Except Refusal (Text × Cursor) :=
    match parts next with
    | .error e => .error e
    | .ok (rest, last) => .ok (part ++ rest, last)

/-- The quoted scalar that starts here. -/
def scanQuoted (double : Bool) (c : Cursor) : Except Refusal (TokenKind × Cursor) := do
  let (content, last) ← quotedParts double c.place (c.size + 1) c.next
  return (.scalar content false, last)

/-! ### Blocks -/

/-- What becomes of the line breaks at the end of a block. -/
inductive Chomping where
  /-- One is kept. -/
  | clip
  /-- None is kept. -/
  | strip
  /-- All are kept. -/
  | keep
  deriving DecidableEq

/-- The chomping that a character asks for. -/
def chomping? (here : Option CodePoint) : Option Chomping :=
  if isChar '+' here then some .keep else if isChar '-' here then some .strip else none

/-- The indentation that a digit asks for, relative to what is around the block. -/
def scanIncrement (start : Place) (c : Cursor) : Except Refusal (Option Nat × Cursor) :=
  match c.peek.bind (·.digit? 10) with
  | none => .ok (none, c)
  | some 0 => refuse (Flaw.zeroIndentation.during .scanningBlockScalar start c.place)
  | some increment => .ok (some increment, c.next)

/-- The chomping and the indentation of a block, which come in either order. -/
def scanIndicators (start : Place) (c : Cursor) :
    Except Refusal ((Chomping × Option Nat) × Cursor) := do
  match chomping? c.peek with
  | some chomping =>
    let (increment, last) ← scanIncrement start c.next
    return ((chomping, increment), last)
  | none =>
    let (increment, last) ← scanIncrement start c
    match increment, chomping? last.peek with
    | some _, some chomping => return ((chomping, increment), last.next)
    | _, _ => return ((.clip, increment), last)

/-- The header of a block with the rest of its line. -/
def scanBlockHeader (start : Place) (c : Cursor) :
    Except Refusal ((Chomping × Option Nat) × Cursor) := do
  let (indicators, gap) ← scanIndicators start c
  if !endsTabbedWord gap.peek then
    refuse ((Flaw.unexpected .scalarIndicators gap.peek).during .scanningBlockScalar start gap.place)
  else
    let last := (gap.skipWhile isSpace).skipComment
    if endsLine last.peek then return (indicators, last.skipBreak)
    else refuse ((Flaw.unexpected .commentOrBreak last.peek).during .scanningBlockScalar start last.place)

/-- Empty lines in a block. -/
structure BlockBreaks where
  breaks : Text
  /-- The greatest indentation in them. -/
  indent : Nat
  stop : Place
  cursor : Cursor

/-- The empty lines at the start of a block, whose indentation is not known yet. -/
def leadingBreaks (indent : Nat) (stop : Place) (c : Cursor) : BlockBreaks :=
  let line := c.skipWhile isSpace
  let indent := if line.size < c.size then max indent line.place.column else indent
  match _taken : line.takeBreak? with
  | none => ⟨[], indent, stop, line⟩
  | some (b, next) =>
    let others := leadingBreaks indent next.place next
    { others with breaks := b :: others.breaks }
termination_by c.size
decreasing_by
  exact Nat.lt_of_lt_of_le (Cursor.takeBreak?_size_lt _taken) (Cursor.skipWhile_size_le _ _)

/-- Past the spaces up to an indentation. The count bounds their number. -/
def skipIndent (indent : Nat) : Nat → Cursor → Cursor
  | 0, c => c
  | count + 1, c =>
    if c.place.column < indent ∧ isChar ' ' c.peek then skipIndent indent count c.next else c

theorem skipIndent_size_le (indent count : Nat) (c : Cursor) :
    (skipIndent indent count c).size ≤ c.size := by
  induction count generalizing c with
  | zero => exact Nat.le_refl _
  | succ count ih =>
    simp only [skipIndent]
    split
    · exact Nat.le_trans (ih c.next) c.next_size_le
    · exact Nat.le_refl _

/-- The empty lines between lines of a block with a known indentation. -/
def innerBreaks (indent : Nat) (stop : Place) (c : Cursor) : BlockBreaks :=
  let line := skipIndent indent indent c
  match _taken : line.takeBreak? with
  | none => ⟨[], indent, stop, line⟩
  | some (b, next) =>
    let others := innerBreaks indent next.place next
    { others with breaks := b :: others.breaks }
termination_by c.size
decreasing_by
  exact Nat.lt_of_lt_of_le (Cursor.takeBreak?_size_lt _taken) (skipIndent_size_le _ _ _)

/-- The lines of a block as far as they are read: their content, the last break, which is not part of it
yet, and the empty lines after it. -/
structure BlockLines where
  content : Text
  lastBreak : Text
  after : BlockBreaks

/-- The lines of a block from here on. Each line takes something, so the count, which is the size of the
text, bounds their number. -/
def blockLines (folded : Bool) (indent : Nat) : Nat → BlockLines → BlockLines
  | 0, lines => lines
  | count + 1, lines =>
    let c := lines.after.cursor
    if c.place.column ≠ indent ∨ c.peek = none then lines
    else
      let startsDeep := c.peek.any isGap
      let (line, last) := c.takeLine
      let (lastBreak, next) : Text × Cursor :=
        match last.takeBreak? with
        | none => ([], last)
        | some (b, next) => ([b], next)
      let after := innerBreaks indent next.place next
      let content := lines.content ++ lines.after.breaks ++ line
      let goesOn := after.cursor.place.column = indent ∧ after.cursor.peek ≠ none
      let joined : Text :=
        if folded ∧ lastBreak = [.scalar '\n'] ∧ !startsDeep ∧ !after.cursor.peek.any isGap then
          if after.breaks = [] then [.scalar ' '] else []
        else lastBreak
      if goesOn then blockLines folded indent count ⟨content ++ joined, lastBreak, after⟩
      else ⟨content, lastBreak, after⟩

/-- The block that starts here, which is indented deeper than what is around it. -/
def scanBlock (folded : Bool) (outer : Int) (c : Cursor) :
    Except Refusal ((TokenKind × Place) × Cursor) := do
  let ((chomping, increment), start) ← scanBlockHeader c.place c.next
  let least := max 1 (outer + 1).toNat
  let leading :=
    match increment with
    | none =>
      let leading := leadingBreaks 0 start.place start
      { leading with indent := max least leading.indent }
    | some increment => innerBreaks (least + increment - 1) start.place start
  let lines := blockLines folded leading.indent (c.size + 1) ⟨[], [], leading⟩
  let ending : Text :=
    match chomping with
    | .clip => lines.lastBreak
    | .strip => []
    | .keep => lines.lastBreak ++ lines.after.breaks
  return ((.scalar (lines.content ++ ending) false, lines.after.stop), lines.after.cursor)

end Markup
end ClassMold
