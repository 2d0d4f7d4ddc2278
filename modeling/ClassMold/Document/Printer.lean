import ClassMold.Document.Basic
import ClassMold.Number.Decimal
import ClassMold.Number.Shortest
import ClassMold.Text.Escaped

/-!
JSON documents as text, either on one line or with one item a line. The two forms of string literals
are those of `Text.literal` and `Text.asciiLiteral`. A document need not be writable: a whole number in it
may be too long.
-/
namespace ClassMold
namespace Document

/-- A new line at a depth, in steps of two spaces. -/
def lineBreak (depth : Nat) : Text := .scalar '\n' :: List.replicate (2 * depth) (.scalar ' ')

mutual

/-- A document with one item a line, indented by depth. -/
def pretty (literal : Text → Text) (depth : Nat) : Document → Text
  | null => "null"
  | bool true => "true"
  | bool false => "false"
  | int value => Text.ofInt value
  | float value => value.render .document
  | str value => literal value
  | list [] => "[]"
  | list (first :: rest) =>
    "[" ++ lineBreak (depth + 1) ++ first.pretty literal (depth + 1) ++
      prettyItems literal (depth + 1) rest ++ lineBreak depth ++ "]"
  | object [] => "\x7b\x7d"
  | object ((key, value) :: rest) =>
    "\x7b" ++ lineBreak (depth + 1) ++ literal key ++ ": " ++ value.pretty literal (depth + 1) ++
      prettyMembers literal (depth + 1) rest ++ lineBreak depth ++ "\x7d"

/-- The items of a list after the first. -/
def prettyItems (literal : Text → Text) (depth : Nat) : List Document → Text
  | [] => []
  | item :: rest =>
    "," ++ lineBreak depth ++ item.pretty literal depth ++ prettyItems literal depth rest

/-- The members of an object after the first. -/
def prettyMembers (literal : Text → Text) (depth : Nat) : List (Text × Document) → Text
  | [] => []
  | (key, value) :: rest =>
    "," ++ lineBreak depth ++ literal key ++ ": " ++ value.pretty literal depth ++
      prettyMembers literal depth rest

end

mutual

/-- A document on one line of printable ASCII. -/
def compact : Document → Text
  | null => "null"
  | bool true => "true"
  | bool false => "false"
  | int value => Text.ofInt value
  | float value => value.render .document
  | str value => value.asciiLiteral
  | list [] => "[]"
  | list (first :: rest) => "[" ++ first.compact ++ compactItems rest ++ "]"
  | object [] => "\x7b\x7d"
  | object ((key, value) :: rest) =>
    "\x7b" ++ key.asciiLiteral ++ ":" ++ value.compact ++ compactMembers rest ++ "\x7d"

/-- The items of a list after the first. -/
def compactItems : List Document → Text
  | [] => []
  | item :: rest => "," ++ item.compact ++ compactItems rest

/-- The members of an object after the first. -/
def compactMembers : List (Text × Document) → Text
  | [] => []
  | (key, value) :: rest => "," ++ key.asciiLiteral ++ ":" ++ value.compact ++ compactMembers rest

end

mutual

/-- Whether no whole number in a document is too long to be written. -/
def isWritable : Document → Bool
  | int value => !Decimal.isTooLong value
  | list items => allWritable items
  | object members => membersWritable members
  | _ => true

/-- Whether all items of a list are writable. -/
def allWritable : List Document → Bool
  | [] => true
  | item :: rest => item.isWritable && allWritable rest

/-- Whether all members of an object are. -/
def membersWritable : List (Text × Document) → Bool
  | [] => true
  | (_, value) :: rest => value.isWritable && membersWritable rest

end

end Document
end ClassMold
