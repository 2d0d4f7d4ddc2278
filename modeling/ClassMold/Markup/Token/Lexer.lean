import ClassMold.Markup.Portion
import ClassMold.Markup.Token.Scalar
import ClassMold.Markup.Token.Word

/-!
The tokens of a text, one step after another. That something is a key shows only at the colon after it,
so a token that may start a key is remembered, and the tokens that mark the key are put in front of it
later. Until that is decided the tokens from there on are not final; if the text turns out to be faulty,
only the final ones count.
-/
namespace ClassMold
namespace Markup

/-- A token that may turn out to start a key. -/
structure KeyCandidate where
  /-- How many tokens stand before it. -/
  number : Nat
  /-- Whether nothing else can stand there. -/
  required : Bool
  place : Place

/-- The tokens so far and all that decides about the next one. -/
structure Lexer where
  cursor : Cursor
  /-- The tokens so far, the last one first. -/
  tokens : List Token
  /-- How many collections in brackets or braces are open. One closed too often counts as less than
  none. -/
  flowLevel : Int
  /-- The column of the innermost open block collection, or less than zero outside of all. -/
  indent : Int
  /-- The columns of the block collections around it. -/
  outer : List Int
  /-- Whether a key may start here. -/
  keyAllowed : Bool
  /-- The candidates, at most one for each level. -/
  candidates : List (Int × KeyCandidate)
  finished : Bool

/-- A step to the next token. -/
abbrev LexerStep := Except Refusal Lexer

namespace Lexer

/-- Before the first token. -/
def start (t : Text) : Lexer :=
  ⟨Cursor.ofText t, [], 0, -1, [], true, [], false⟩

/-- Whether brackets or braces are open, so that indentation does not count. -/
def inFlow (l : Lexer) : Bool := l.flowLevel != 0

/-- The place of the next token. -/
def place (l : Lexer) : Place := l.cursor.place

/-- The column of the next token. -/
def column (l : Lexer) : Int := l.cursor.place.column

/-- Adds a token. -/
def push (l : Lexer) (kind : TokenKind) (start stop : Place) : Lexer :=
  { l with tokens := ⟨kind, start, stop⟩ :: l.tokens }

/-- Adds a token that takes no space. -/
def pushHere (l : Lexer) (kind : TokenKind) : Lexer := l.push kind l.place l.place

/-- Adds a token that takes a number of characters. -/
def pushMark (l : Lexer) (kind : TokenKind) (length : Nat) : Lexer :=
  let next := l.cursor.forward length
  { l.push kind l.place next.place with cursor := next }

/-- Puts a token that takes no space in front of others. -/
def insertAt (l : Lexer) (number : Nat) (kind : TokenKind) (place : Place) : Lexer :=
  let later := l.tokens.take (l.tokens.length - number)
  let earlier := l.tokens.drop (l.tokens.length - number)
  { l with tokens := later ++ ⟨kind, place, place⟩ :: earlier }

/-! ### Candidates for keys -/

/-- The candidate of the level that is open. -/
def candidate? (l : Lexer) : Option KeyCandidate :=
  (l.candidates.find? (·.1 == l.flowLevel)).map (·.2)

/-- A fault of a key without a colon. -/
def missingColon (l : Lexer) (candidate : KeyCandidate) : LexerStep :=
  refuse (Flaw.missingColon.during .scanningKey candidate.place l.place)

/-- Without the candidate of the level that is open. -/
def withoutCandidate (l : Lexer) : Lexer :=
  { l with candidates := l.candidates.filter (·.1 != l.flowLevel) }

/-- Gives up the candidate of the level that is open. -/
def dropCandidate (l : Lexer) : LexerStep :=
  match l.candidate? with
  | none => .ok l
  | some candidate => if candidate.required then l.missingColon candidate else .ok l.withoutCandidate

/-- The greatest distance between the start of a key and its colon. -/
def keyLimit : Nat := 1024

/-- Whether it is too late for a colon. -/
def isStale (l : Lexer) (candidate : KeyCandidate) : Bool :=
  candidate.place.line != l.place.line || l.place.index - candidate.place.index > keyLimit

/-- Gives up all candidates for which it is too late. -/
def dropStale (l : Lexer) : LexerStep :=
  match l.candidates.find? fun entry => l.isStale entry.2 && entry.2.required with
  | some (_, candidate) => l.missingColon candidate
  | none => .ok { l with candidates := l.candidates.filter fun entry => !l.isStale entry.2 }

/-- Remembers the next token as a candidate if a key may start here. -/
def saveCandidate (l : Lexer) : LexerStep :=
  if l.keyAllowed then do
    let required := !l.inFlow && l.indent == l.column
    let cleared ← l.dropCandidate
    let candidate : KeyCandidate := ⟨l.tokens.length, required, l.place⟩
    return { cleared with candidates := cleared.candidates ++ [(l.flowLevel, candidate)] }
  else .ok l

/-- How many tokens are final. -/
def finalCount (l : Lexer) : Nat :=
  l.candidates.foldl (fun count entry => min count entry.2.number) l.tokens.length

/-! ### Indentation -/

/-- Closes the block collections that are indented deeper than a column. -/
def closeBlocks (column : Int) (indent : Int) : List Int → Lexer → Lexer
  | [], l => { l with indent := indent, outer := [] }
  | last :: outer, l =>
    if indent > column then closeBlocks column last outer (l.pushHere .blockEnd)
    else { l with indent := indent, outer := last :: outer }

/-- Closes the block collections that end before a column; inside brackets and braces none does. -/
def unwind (l : Lexer) (column : Int) : Lexer :=
  if l.inFlow then l else closeBlocks column l.indent l.outer l

/-- Opens a block collection at a column if it is deeper than the innermost open one. -/
def openBlock (l : Lexer) (column : Int) : Option Lexer :=
  if l.indent < column then some { l with indent := column, outer := l.indent :: l.outer } else none

/-- Opens a block collection here, if that is needed, with its token. -/
def openBlockHere (l : Lexer) (kind : TokenKind) : Lexer :=
  match l.openBlock l.column with
  | none => l
  | some opened => opened.pushHere kind

/-! ### Steps -/

/-- Past the spaces, comments and breaks in front of a token. -/
def skipLines (l : Lexer) : Lexer :=
  let c := (l.cursor.skipWhile isSpace).skipComment
  match _taken : c.takeBreak? with
  | none => { l with cursor := c }
  | some (_, next) =>
    skipLines { l with cursor := next, keyAllowed := l.keyAllowed || !l.inFlow }
termination_by l.cursor.size
decreasing_by
  exact Nat.lt_of_lt_of_le (Cursor.takeBreak?_size_lt _taken)
    (Nat.le_trans (Cursor.skipComment_size_le _) (Cursor.skipWhile_size_le _ _))

/-- To the next token. A byte order mark at the start of the text is passed over. -/
def skipToToken (l : Lexer) : Lexer :=
  let atMark := l.place.index = 0 ∧ l.cursor.peek = some (.scalar '\uFEFF')
  let l := if atMark then { l with cursor := l.cursor.next } else l
  l.skipLines

/-- The end of the text. -/
def lexEnd (l : Lexer) : LexerStep := do
  let l ← (l.unwind (-1)).dropCandidate
  return { l.pushHere .streamEnd with keyAllowed := false, candidates := [], finished := true }

/-- A directive. -/
def lexDirective (l : Lexer) : LexerStep := do
  let l ← (l.unwind (-1)).dropCandidate
  let ((kind, stop), next) ← scanDirective l.cursor
  return { l.push kind l.place stop with cursor := next, keyAllowed := false }

/-- A mark at the start or the end of a document. -/
def lexDocumentMark (l : Lexer) (kind : TokenKind) : LexerStep := do
  let l ← (l.unwind (-1)).dropCandidate
  return { l.pushMark kind 3 with keyAllowed := false }

/-- An opening bracket or brace. -/
def lexFlowStart (l : Lexer) (kind : TokenKind) : LexerStep := do
  let l ← l.saveCandidate
  return { l.pushMark kind 1 with flowLevel := l.flowLevel + 1, keyAllowed := true }

/-- A closing bracket or brace. -/
def lexFlowEnd (l : Lexer) (kind : TokenKind) : LexerStep := do
  let l ← l.dropCandidate
  return { l.pushMark kind 1 with flowLevel := l.flowLevel - 1, keyAllowed := false }

/-- A comma. -/
def lexFlowEntry (l : Lexer) : LexerStep := do
  let l ← l.dropCandidate
  return { l.pushMark .flowEntry 1 with keyAllowed := true }

/-- The hyphen of an entry. -/
def lexBlockEntry (l : Lexer) : LexerStep := do
  if !l.inFlow && !l.keyAllowed then refuse (Flaw.misplacedEntry.at l.place)
  else
    let l := if l.inFlow then l else l.openBlockHere .blockSequenceStart
    let l ← l.dropCandidate
    return { l.pushMark .blockEntry 1 with keyAllowed := true }

/-- A question mark before a key. -/
def lexKey (l : Lexer) : LexerStep := do
  if !l.inFlow && !l.keyAllowed then refuse (Flaw.misplacedKey.at l.place)
  else
    let l := if l.inFlow then l else l.openBlockHere .blockMappingStart
    let l ← l.dropCandidate
    return { l.pushMark .key 1 with keyAllowed := !l.inFlow }

/-- A colon that makes a key of the candidate. -/
def lexValueOf (l : Lexer) (candidate : KeyCandidate) : Lexer :=
  let keyed := l.withoutCandidate.insertAt candidate.number .key candidate.place
  let opened :=
    if l.inFlow then keyed
    else
      match keyed.openBlock candidate.place.column with
      | none => keyed
      | some opened => opened.insertAt candidate.number .blockMappingStart candidate.place
  { opened.pushMark .value 1 with keyAllowed := false }

/-- A colon. -/
def lexValue (l : Lexer) : LexerStep :=
  match l.candidate? with
  | some candidate => .ok (l.lexValueOf candidate)
  | none =>
    if !l.inFlow && !l.keyAllowed then refuse (Flaw.misplacedValue.at l.place)
    else
      let l := if l.inFlow then l else l.openBlockHere .blockMappingStart
      .ok { l.pushMark .value 1 with keyAllowed := !l.inFlow }

/-- A token that may be or start a key. -/
def lexWord (l : Lexer) (scan : Cursor → Except Refusal (TokenKind × Cursor)) : LexerStep := do
  let l ← l.saveCandidate
  let (kind, next) ← scan l.cursor
  return { l.push kind l.place next.place with cursor := next, keyAllowed := false }

/-- A plain scalar. If its last line break is passed already, a key may start. -/
def lexPlain (l : Lexer) : LexerStep := do
  let l ← l.saveCandidate
  let plain := scanPlain l.inFlow (l.indent + 1) l.cursor
  return { l.push (.scalar plain.content true) l.place plain.stop with
    cursor := plain.cursor
    keyAllowed := plain.breaksLine }

/-- A block. -/
def lexBlock (l : Lexer) (folded : Bool) : LexerStep := do
  let l ← l.dropCandidate
  let ((kind, stop), next) ← scanBlock folded l.indent l.cursor
  return { l.push kind l.place stop with cursor := next, keyAllowed := true }

/-- Whether a plain scalar may start here. Three marks may start one if no space follows. -/
def startsPlain (l : Lexer) : Bool :=
  let here := l.cursor.peek
  let reserved := "-?:,[]{}#&*!|>'\"%@`".toList
  (!endsWord here && !isAmong reserved here) ||
    (!endsWord (l.cursor.ahead 1) &&
      (isChar '-' here || (!l.inFlow && isAmong ['?', ':'] here)))

/-- The next token, at which the cursor stands. -/
def lexToken (l : Lexer) : LexerStep :=
  let c := l.cursor
  let atStart := c.place.column == 0
  let spaced := endsWord (c.ahead 1)
  match c.peek with
  | none => l.lexEnd
  | some (.surrogate offset) =>
    refuse ⟨some (.findingToken, none), .strayCharacter (.surrogate offset), l.place⟩
  | some (.scalar here) =>
    if here == '%' && atStart then l.lexDirective
    else if atStart && c.atMarker '-' then l.lexDocumentMark .documentStart
    else if atStart && c.atMarker '.' then l.lexDocumentMark .documentEnd
    else if here == '[' then l.lexFlowStart .flowSequenceStart
    else if here == '\x7b' then l.lexFlowStart .flowMappingStart
    else if here == ']' then l.lexFlowEnd .flowSequenceEnd
    else if here == '\x7d' then l.lexFlowEnd .flowMappingEnd
    else if here == ',' then l.lexFlowEntry
    else if here == '-' && spaced then l.lexBlockEntry
    else if here == '?' && (l.inFlow || spaced) then l.lexKey
    else if here == ':' && (l.inFlow || spaced) then l.lexValue
    else if here == '*' then l.lexWord scanAlias
    else if here == '&' then l.lexWord scanAnchor
    else if here == '!' then l.lexWord scanTag
    else if here == '|' && !l.inFlow then l.lexBlock false
    else if here == '>' && !l.inFlow then l.lexBlock true
    else if here == '\x27' then l.lexWord (scanQuoted false)
    else if here == '"' then l.lexWord (scanQuoted true)
    else if l.startsPlain then l.lexPlain
    else refuse ⟨some (.findingToken, none), .strayCharacter (.scalar here), l.place⟩

/-- The step to the next token and past what stands in front of it. -/
def step (l : Lexer) : LexerStep := do
  let l ← l.skipToToken.dropStale
  let l ← (l.unwind l.column).lexToken
  if l.finished then return l else l.dropStale

end Lexer

/-- The tokens of a text as far as they are final, and why there are no more, if the text is faulty. -/
structure Tokens where
  list : List Token
  failure : Option Refusal

/-- Why no token follows the last one. In a text without faults that is the end of the text. -/
def Tokens.exhausted (tokens : Tokens) : Refusal :=
  tokens.failure.getD (.fault (Flaw.endInQuotes.at (Cursor.ofText []).place))

/-- The step to the next token in a text that a flaw may follow. A step that gets to the end of the text
meets the flaw. -/
def Lexer.stepBefore (l : Lexer) (flaw : Option Refusal) : LexerStep :=
  match flaw, l.step with
  | none, next => next
  | some flaw, .ok next => if next.cursor.rest = [] then .error flaw else .ok next
  | some flaw, .error (.fault fault) =>
    .error (if fault.place.index < l.place.index + l.cursor.size then .fault fault else flaw)
  | some _, .error refusal => .error refusal

/-- The tokens of a text that are not read yet. Each step takes something, so the count, which is the
size of the text, bounds their number. -/
def Lexer.run (flaw : Option Refusal) : Nat → Lexer → Tokens
  | 0, l => ⟨l.tokens.reverse, flaw⟩
  | count + 1, l =>
    match l.stepBefore flaw with
    | .error failure => ⟨l.tokens.reverse.take l.finalCount, some failure⟩
    | .ok next => if next.finished then ⟨next.tokens.reverse, none⟩ else next.run flaw count

/-- The tokens of a file that is read. -/
def Tokens.ofDelivery (file : Delivery) : Tokens :=
  (Lexer.start file.text).run file.flaw (file.text.length + 1)

end Markup
end ClassMold
