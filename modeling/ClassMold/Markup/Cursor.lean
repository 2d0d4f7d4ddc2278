import ClassMold.Text.CodePoint

/-!
A place in a markup text and what is left of the text from there on. Line ends are single line feeds;
the next-line character and the separators of lines and paragraphs break lines as well.
-/
namespace ClassMold
namespace Markup

/-- A place in a text, counted from zero in each respect. -/
structure Place where
  index : Nat
  line : Nat
  column : Nat
  deriving DecidableEq

/-- The break that a code point is read as, if it breaks lines. -/
def break? : CodePoint → Option CodePoint
  | .scalar '\n' => some (.scalar '\n')
  | .scalar '\u0085' => some (.scalar '\n')
  | .scalar '\u2028' => some (.scalar '\u2028')
  | .scalar '\u2029' => some (.scalar '\u2029')
  | _ => none

/-- Whether a code point breaks lines. -/
def isBreak (c : CodePoint) : Bool := (break? c).isSome

/-- A space, the only character that indents. -/
def isSpace (c : CodePoint) : Bool := c == .scalar ' '

/-- A space or a tab. -/
def isGap (c : CodePoint) : Bool := c == .scalar ' ' || c == .scalar '\t'

/-- Whether a line ends here. -/
def endsLine : Option CodePoint → Bool
  | none => true
  | some c => isBreak c

/-- Whether a word ends here, where tabs belong to words. -/
def endsTabbedWord : Option CodePoint → Bool
  | none => true
  | some c => isSpace c || isBreak c

/-- Whether a word ends here. -/
def endsWord : Option CodePoint → Bool
  | none => true
  | some c => isGap c || isBreak c

/-- Whether one of some characters stands here. -/
def isAmong (characters : List Char) : Option CodePoint → Bool
  | some (.scalar c) => characters.contains c
  | _ => false

/-- Whether a character stands here. -/
def isChar (character : Char) (here : Option CodePoint) : Bool := isAmong [character] here

/-- A letter or digit of ASCII, a hyphen or an underscore. -/
def isNameChar : CodePoint → Bool
  | .scalar c => c.isAlphanum || c == '-' || c == '_'
  | .surrogate _ => false

/-- The place after a code point. A byte order mark takes no column. -/
def Place.after (p : Place) (c : CodePoint) : Place :=
  if isBreak c then ⟨p.index + 1, p.line + 1, 0⟩
  else if c = .scalar '\uFEFF' then ⟨p.index + 1, p.line, p.column⟩
  else ⟨p.index + 1, p.line, p.column + 1⟩

/-- What is left of a text, and where that starts. -/
structure Cursor where
  rest : Text
  place : Place

namespace Cursor

/-- The start of a text. -/
def ofText (t : Text) : Cursor := ⟨t, ⟨0, 0, 0⟩⟩

/-- How much is left. -/
def size (c : Cursor) : Nat := c.rest.length

/-- The code point here. -/
def peek (c : Cursor) : Option CodePoint := c.rest.head?

/-- The code point a number of places further on. -/
def ahead (c : Cursor) (count : Nat) : Option CodePoint := c.rest[count]?

/-- Past the code point here. -/
def next (c : Cursor) : Cursor :=
  match c.rest with
  | [] => c
  | first :: rest => ⟨rest, c.place.after first⟩

/-- Past a number of code points. -/
def forward (c : Cursor) : Nat → Cursor
  | 0 => c
  | count + 1 => c.next.forward count

/-- The code points up to the first one that is a stop, and the cursor there. What follows a code point
may decide whether it is one. -/
def takeUntil (stop : CodePoint → Option CodePoint → Bool) (c : Cursor) : Text × Cursor :=
  go c.place c.rest
where
  /-- The code points of a text that starts at a place. -/
  go (place : Place) : Text → Text × Cursor
    | [] => ([], ⟨[], place⟩)
    | first :: rest =>
      if stop first rest.head? then ([], ⟨first :: rest, place⟩)
      else
        let (taken, last) := go (place.after first) rest
        (first :: taken, last)

/-- The code points as long as they satisfy a test, and the cursor after them. -/
def takeWhile (test : CodePoint → Bool) (c : Cursor) : Text × Cursor :=
  c.takeUntil fun first _ => !test first

/-- Past all code points that satisfy a test. -/
def skipWhile (test : CodePoint → Bool) (c : Cursor) : Cursor := (c.takeWhile test).2

/-- The rest of the line. -/
def takeLine (c : Cursor) : Text × Cursor := c.takeWhile fun first => !isBreak first

/-- Past the rest of the line if it is a comment. -/
def skipComment (c : Cursor) : Cursor := if isChar '#' c.peek then c.takeLine.2 else c

/-- The break here and the cursor after it. -/
def takeBreak? (c : Cursor) : Option (CodePoint × Cursor) :=
  match c.peek.bind break? with
  | none => none
  | some b => some (b, c.next)

/-- Past the break here, if there is one. -/
def skipBreak (c : Cursor) : Cursor :=
  match c.takeBreak? with
  | none => c
  | some (_, next) => next

/-- Whether a document marker of three equal characters stands here. -/
def atMarker (c : Cursor) (character : Char) : Bool :=
  c.rest.startsWith (List.replicate 3 (.scalar character)) && endsWord (c.ahead 3)

/-- Whether a marker between documents stands here. -/
def atSeparator (c : Cursor) : Bool := c.atMarker '-' || c.atMarker '.'

/-! ### Nothing is given back -/

theorem next_size_le (c : Cursor) : c.next.size ≤ c.size := by
  unfold next size
  split <;> simp_all

theorem takeUntil_go_size_le (stop : CodePoint → Option CodePoint → Bool) (place : Place) (t : Text) :
    (takeUntil.go stop place t).2.size ≤ t.length := by
  induction t generalizing place with
  | nil => simp [takeUntil.go, size]
  | cons first rest ih =>
    simp only [takeUntil.go]
    split
    · simp [size]
    · exact Nat.le_succ_of_le (ih _)

theorem takeUntil_size_le (stop : CodePoint → Option CodePoint → Bool) (c : Cursor) :
    (c.takeUntil stop).2.size ≤ c.size :=
  takeUntil_go_size_le stop c.place c.rest

theorem takeUntil_go_eq (stop : CodePoint → Option CodePoint → Bool) (place : Place) (t : Text) :
    (takeUntil.go stop place t).1 ++ (takeUntil.go stop place t).2.rest = t := by
  induction t generalizing place with
  | nil => rfl
  | cons first rest ih =>
    simp only [takeUntil.go]
    split
    · rfl
    · exact congrArg (first :: ·) (ih _)

theorem takeUntil_size_lt {stop : CodePoint → Option CodePoint → Bool} {c last : Cursor}
    {run : Text} (taken : c.takeUntil stop = (run, last)) (nonempty : run ≠ []) : last.size < c.size := by
  have whole := takeUntil_go_eq stop c.place c.rest
  unfold takeUntil at taken
  rw [taken] at whole
  have := List.length_pos_iff.2 nonempty
  have := congrArg List.length whole
  simp only [List.length_append] at this
  unfold size
  omega

theorem skipComment_size_le (c : Cursor) : c.skipComment.size ≤ c.size := by
  unfold skipComment
  split
  · exact takeUntil_size_le _ c
  · exact Nat.le_refl _

theorem skipWhile_size_le (test : CodePoint → Bool) (c : Cursor) :
    (c.skipWhile test).size ≤ c.size :=
  takeUntil_go_size_le _ _ _

theorem takeBreak?_size_lt {c next : Cursor} {b : CodePoint} (taken : c.takeBreak? = some (b, next)) :
    next.size < c.size := by
  unfold takeBreak? at taken
  split at taken
  · simp at taken
  · next found =>
    simp only [Option.some.injEq, Prod.mk.injEq] at taken
    rw [← taken.2]
    unfold Cursor.next size
    cases here : c.rest with
    | nil => simp [peek, here] at found
    | cons first rest => simp

end Cursor
end Markup
end ClassMold
