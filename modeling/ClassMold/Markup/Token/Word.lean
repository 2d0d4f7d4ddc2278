import ClassMold.Markup.Token

/-!
The tokens that are marked by one of the characters `%`, `*`, `&` and `!`: directives, aliases, anchors
and tags.
-/
namespace ClassMold
namespace Markup

/-! ### Tags -/

/-- A character that may stand in a tag as it is or start an escape. -/
def isUriChar : CodePoint → Bool
  | .scalar c => c.isAlphanum || "-;/?:@&=+$,_.!~*'()[]%".toList.contains c
  | .surrogate _ => false

/-- The value of an escape whose percent sign has been passed. -/
def uriByte (task : Task) (start : Place) (c : Cursor) : Except Fault UInt8 :=
  match c.peek.bind (·.digit? 16) with
  | none => .error ((Flaw.unexpected .uriEscape c.peek).during task start c.place)
  | some high =>
    match (c.ahead 1).bind (·.digit? 16) with
    | none => .error ((Flaw.unexpected .uriEscape (c.ahead 1)).during task start c.place)
    | some low => .ok (.ofNat (high * 16 + low))

/-- The bytes of the escapes that stand here one after another. The count bounds their number. -/
def uriBytes (task : Task) (start : Place) : Nat → Cursor → Except Fault (Bytes × Cursor)
  | 0, c => .ok ([], c)
  | count + 1, c =>
    if isChar '%' c.peek then
      match uriByte task start c.next with
      | .error fault => .error fault
      | .ok byte =>
        match uriBytes task start count (c.next.forward 2) with
        | .error fault => .error fault
        | .ok (bytes, last) => .ok (byte :: bytes, last)
    else .ok ([], c)

/-- The text of the escapes that stand here. -/
def uriEscapes (task : Task) (start : Place) (c : Cursor) : Except Fault (Text × Cursor) :=
  match uriBytes task start c.size c with
  | .error fault => .error fault
  | .ok (bytes, last) =>
    match Utf8.decode bytes with
    | .error e => .error ((Flaw.badUriBytes e).during task start c.place)
    | .ok t => .ok (t, last)

/-- The characters of a tag with its escapes replaced. The count bounds the number of parts. -/
def uriParts (task : Task) (start : Place) : Nat → Cursor → Except Fault (Text × Cursor)
  | 0, c => .ok ([], c)
  | count + 1, c =>
    if isChar '%' c.peek then
      match uriEscapes task start c with
      | .error fault => .error fault
      | .ok (part, next) => more part next (uriParts task start count)
    else
      match c.takeWhile fun d => isUriChar d && d != .scalar '%' with
      | ([], _) => .ok ([], c)
      | (part, next) => more part next (uriParts task start count)
where
  /-- A part in front of those that follow. -/
  more (part : Text) (next : Cursor) (parts : Cursor → Except Fault (Text × Cursor)) :
      Except Fault (Text × Cursor) :=
    match parts next with
    | .error fault => .error fault
    | .ok (rest, last) => .ok (part ++ rest, last)

/-- A tag or the start of one, which is not empty. -/
def scanUri (scanning reading : Task) (start : Place) (c : Cursor) : Except Refusal (Text × Cursor) :=
  if isUriChar (c.peek.getD (.scalar ' ')) then
    match uriParts scanning start c.size c with
    | .error fault => refuse fault
    | .ok found => .ok found
  else refuse ((Flaw.unexpected .uri c.peek).during reading start c.place)

/-- A handle: two exclamation marks with a name between them, or one alone. -/
def scanHandle (task : Task) (start : Place) (c : Cursor) : Except Refusal (Text × Cursor) :=
  if !isChar '!' c.peek then refuse ((Flaw.unexpected .exclamationMark c.peek).during task start c.place)
  else if isChar ' ' (c.ahead 1) then .ok ("!", c.next)
  else
    let (name, last) := c.next.takeWhile isNameChar
    if isChar '!' last.peek then .ok ("!" ++ name ++ "!", last.next)
    else refuse ((Flaw.unexpected .exclamationMark last.peek).during task start last.place)

/-- Whether another exclamation mark stands in the word that starts here. -/
def hasHandle (c : Cursor) : Bool :=
  (c.takeUntil fun d _ => d == .scalar '!' || endsTabbedWord (some d)).2.peek == some (.scalar '!')

/-- The parts of a tag that starts here with an exclamation mark. -/
def scanTagParts (c : Cursor) : Except Refusal ((Option Text × Text) × Cursor) := do
  if isChar '<' (c.ahead 1) then
    let (rest, last) ← scanUri .scanningTag .readingTag c.place (c.forward 2)
    if isChar '>' last.peek then return ((none, rest), last.next)
    else refuse ((Flaw.unexpected .closingAngle last.peek).during .readingTag c.place last.place)
  else if endsWord (c.ahead 1) then return ((none, "!"), c.next)
  else if hasHandle c.next then
    let (handle, last) ← scanHandle .scanningTag c.place c
    let (rest, last) ← scanUri .scanningTag .readingTag c.place last
    return ((some handle, rest), last)
  else
    let (rest, last) ← scanUri .scanningTag .readingTag c.place c.next
    return ((some "!", rest), last)

/-- A tag. -/
def scanTag (c : Cursor) : Except Refusal (TokenKind × Cursor) := do
  let ((handle, rest), last) ← scanTagParts c
  if endsTabbedWord last.peek then return (.tag handle rest, last)
  else refuse ((Flaw.unexpected .space last.peek).during .scanningTag c.place last.place)

/-! ### Anchors and aliases -/

/-- A name after its mark. -/
def scanName (task : Task) (c : Cursor) : Except Refusal (Text × Cursor) :=
  let (name, last) := c.next.takeWhile isNameChar
  let ends := endsWord last.peek || isAmong ['?', ':', ',', ']', '\x7d', '%', '@', '\x60'] last.peek
  if name ≠ [] ∧ ends then
    .ok (name, last)
  else
    let found := if name = [] then c.next else last
    refuse ((Flaw.unexpected .nameCharacter found.peek).during task c.place found.place)

/-- An alias. -/
def scanAlias (c : Cursor) : Except Refusal (TokenKind × Cursor) := do
  let (name, last) ← scanName .scanningAlias c
  return (.reference name, last)

/-- An anchor. -/
def scanAnchor (c : Cursor) : Except Refusal (TokenKind × Cursor) := do
  let (name, last) ← scanName .scanningAnchor c
  return (.anchor name, last)

/-! ### Directives -/

/-- A fault of a directive. -/
def directiveFault {α : Type} (wanted : Wanted) (start : Place) (c : Cursor) : Except Refusal α :=
  refuse ((Flaw.unexpected wanted c.peek).during .scanningDirective start c.place)

/-- A number of a version. -/
def scanVersionNumber (start : Place) (c : Cursor) : Except Refusal (Nat × Cursor) :=
  match c.takeWhile CodePoint.isAsciiDigit with
  | ([], _) => directiveFault .digit start c
  | (digits, last) =>
    if digits.length > Decimal.digitLimit then .error (.tooManyDigits digits.length)
    else .ok (Text.readDigits 10 (digits.filterMap (·.digit? 10)), last)

/-- A version of two numbers. -/
def scanVersion (start : Place) (c : Cursor) : Except Refusal (Directive × Cursor) := do
  let (major, point) ← scanVersionNumber start (c.skipWhile isSpace)
  if !isChar '.' point.peek then directiveFault .digitOrPoint start point
  else
    let (minor, last) ← scanVersionNumber start point.next
    if endsTabbedWord last.peek then return (.version major minor, last)
    else directiveFault .digitOrSpace start last

/-- A handle and what tags with it start with. -/
def scanHandleMeaning (start : Place) (c : Cursor) : Except Refusal (Directive × Cursor) := do
  let (handle, gap) ← scanHandle .scanningDirective start (c.skipWhile isSpace)
  if !isChar ' ' gap.peek then directiveFault .space start gap
  else
    let (meaning, last) ←
      scanUri .scanningDirective .readingDirective start (gap.skipWhile isSpace)
    if endsTabbedWord last.peek then return (.handle handle meaning, last)
    else directiveFault .space start last

/-- The name of a directive after its mark. -/
def scanDirectiveName (c : Cursor) : Except Refusal (Text × Cursor) :=
  match c.next.takeWhile isNameChar with
  | ([], _) => directiveFault .nameCharacter c.place c.next
  | (name, last) =>
    if endsTabbedWord last.peek then .ok (name, last)
    else directiveFault .nameCharacter c.place last

/-- A directive. The second cursor is past its line. -/
def scanDirective (c : Cursor) : Except Refusal ((TokenKind × Place) × Cursor) := do
  let (name, last) ← scanDirectiveName c
  let (directive, last, stop) ←
    if name = "YAML" then do
      let (directive, last) ← scanVersion c.place last
      pure (directive, last, last.place)
    else if name = "TAG" then do
      let (directive, last) ← scanHandleMeaning c.place last
      pure (directive, last, last.place)
    else pure (Directive.other, last.takeLine.2, last.place)
  let last := (last.skipWhile isSpace).skipComment
  if endsLine last.peek then return ((.directive directive, stop), last.skipBreak)
  else directiveFault .commentOrBreak c.place last

end Markup
end ClassMold
