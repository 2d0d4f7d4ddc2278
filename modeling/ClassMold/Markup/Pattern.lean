import ClassMold.Text.CodePoint

/-!
Patterns of texts, matched by derivatives: what is left of a pattern after each code point is a pattern
again.
-/
namespace ClassMold
namespace Markup

/-- A pattern. -/
inductive Pattern where
  /-- Matches nothing. -/
  | never
  /-- Matches the empty text. -/
  | empty
  /-- Matches one code point that satisfies a test. -/
  | one (test : CodePoint → Bool)
  | seq (first second : Pattern)
  | either (first second : Pattern)
  /-- Matches any number of repetitions. -/
  | many (pattern : Pattern)

namespace Pattern

/-- Whether the empty text matches. -/
def isNullable : Pattern → Bool
  | never => false
  | empty => true
  | one _ => false
  | seq first second => first.isNullable && second.isNullable
  | either first second => first.isNullable || second.isNullable
  | many _ => true

/-- Two patterns in a row, without those that match nothing or only the empty text. -/
def andThen : Pattern → Pattern → Pattern
  | never, _ => never
  | _, never => never
  | empty, second => second
  | first, empty => first
  | first, second => seq first second

/-- One of two patterns, without those that match nothing. -/
def orElse : Pattern → Pattern → Pattern
  | never, second => second
  | first, never => first
  | first, second => either first second

/-- What is left of a pattern after a code point. -/
def after (c : CodePoint) : Pattern → Pattern
  | never => never
  | empty => never
  | one test => if test c then empty else never
  | seq first second =>
    let rest := (first.after c).andThen second
    if first.isNullable then rest.orElse (second.after c) else rest
  | either first second => (first.after c).orElse (second.after c)
  | many pattern => (pattern.after c).andThen (many pattern)

/-- Whether a whole text matches. -/
def isMatch (pattern : Pattern) : Text → Bool
  | [] => pattern.isNullable
  | c :: rest => (pattern.after c).isMatch rest

/-! ### Building patterns -/

/-- A character between two others. -/
def range (first last : Char) : Pattern :=
  one fun
    | .scalar c => first ≤ c && c ≤ last
    | .surrogate _ => false

/-- One of some characters. -/
def oneOf (characters : String) : Pattern :=
  one fun
    | .scalar c => characters.toList.contains c
    | .surrogate _ => false

/-- A fixed text. -/
def word (w : String) : Pattern :=
  w.toList.foldr (fun c rest => seq (one (· == .scalar c)) rest) empty

/-- One of some fixed texts. -/
def words (ws : List String) : Pattern := (ws.map word).foldr either never

/-- Patterns in a row. -/
def row (patterns : List Pattern) : Pattern := patterns.foldr seq empty

/-- One of some patterns. -/
def anyOf (patterns : List Pattern) : Pattern := patterns.foldr either never

/-- A pattern or nothing. -/
def optional (pattern : Pattern) : Pattern := either empty pattern

/-- At least one repetition. -/
def some (pattern : Pattern) : Pattern := seq pattern (many pattern)

end Pattern
end Markup
end ClassMold
