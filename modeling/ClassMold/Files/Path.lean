import ClassMold.Text.CodePoint

/-!
Paths in a normal form: no empty steps and no steps to the same place. Steps upward stay, since what
they lead to depends on the files.
-/
namespace ClassMold

/-- Where a path starts. Two slashes at its start are kept apart from one. -/
inductive PathStart where
  | here
  | root
  | doubleRoot
  deriving DecidableEq

/-- A path in normal form. -/
structure Path where
  start : PathStart
  steps : List Text
  deriving DecidableEq

namespace Path

/-- The separator of steps. -/
def separator : CodePoint := .scalar '/'

/-- Where a text starts as a path. More than two slashes count as one. -/
def startOf : Text → PathStart
  | .scalar '/' :: .scalar '/' :: .scalar '/' :: _ => .root
  | .scalar '/' :: .scalar '/' :: _ => .doubleRoot
  | .scalar '/' :: _ => .root
  | _ => .here

/-- The path that a text writes. -/
def ofText (t : Text) : Path where
  start := startOf t
  steps := (Text.splitAll separator t).filter fun step => step ≠ [] && step ≠ "."

/-- The slashes that a path starts with. -/
def startText : PathStart → Text
  | .here => []
  | .root => "/"
  | .doubleRoot => "//"

/-- The text of a path. The path without steps is a dot. -/
def toText (p : Path) : Text :=
  match p.start, p.steps with
  | .here, [] => "."
  | start, steps => startText start ++ Text.joinWith [separator] steps

/-- The second path taken from the first one. A path from the root stays as it is. -/
def append (p q : Path) : Path :=
  match q.start with
  | .here => { p with steps := p.steps ++ q.steps }
  | _ => q

/-- The path without its last step. -/
def parent (p : Path) : Path := { p with steps := p.steps.dropLast }

/-- The last step. -/
def fileName (p : Path) : Text := p.steps.getLastD []

/-- The path to another file in the same directory. -/
def sibling (p : Path) (name : Text) : Path := { p with steps := p.steps.dropLast ++ [name] }

end Path

end ClassMold
