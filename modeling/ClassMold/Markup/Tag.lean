import ClassMold.Markup.Pattern

/-!
Tags say what kind of value a node stands for. A plain scalar has the tag of the first kind of value
whose form it has, and is a text if it has none of them.
-/
namespace ClassMold
namespace Markup

/-- The start that the tags of common kinds share. -/
def commonStart : Text := "tag:yaml.org,2002:"

/-- The tag of a common kind. -/
def commonTag (kind : String) : Text := commonStart ++ Text.ofString kind

/-- The common kinds of values. -/
inductive ValueKind where
  | null
  | bool
  | int
  | float
  | binary
  | timestamp
  | orderedMap
  | pairs
  | set
  | text
  | sequence
  | mapping
  deriving DecidableEq

namespace ValueKind

/-- The tag of a kind. -/
def tag : ValueKind → Text
  | null => commonTag "null"
  | bool => commonTag "bool"
  | int => commonTag "int"
  | float => commonTag "float"
  | binary => commonTag "binary"
  | timestamp => commonTag "timestamp"
  | orderedMap => commonTag "omap"
  | pairs => commonTag "pairs"
  | set => commonTag "set"
  | text => commonTag "str"
  | sequence => commonTag "seq"
  | mapping => commonTag "map"

/-- All kinds. -/
def all : List ValueKind :=
  [null, bool, int, float, binary, timestamp, orderedMap, pairs, set, text, sequence, mapping]

/-- The kind with a tag. -/
def ofTag? (tag : Text) : Option ValueKind := all.find? fun kind => kind.tag == tag

end ValueKind

/-- The tag of a key whose value is merged into the mapping. -/
def mergeTag : Text := commonTag "merge"

/-- The tag of a key whose value stands for the whole mapping. -/
def wholeTag : Text := commonTag "value"

/-- The tag that leaves the kind of a value open. -/
def openTag : Text := "!"

/-! ### Forms of plain scalars -/

open Pattern

/-- A decimal digit. -/
def digit : Pattern := range '0' '9'

/-- A sign, which may be left out. -/
def sign : Pattern := optional (oneOf "-+")

/-- A decimal digit or an underscore. -/
def spacedDigit : Pattern := either digit (oneOf "_")

/-- An exponent with its sign, which may be left out altogether. -/
def exponentPart : Pattern := optional (row [oneOf "eE", oneOf "-+", Pattern.some digit])

/-- Further groups of a number in base sixty. -/
def sixties : Pattern := Pattern.some (row [oneOf ":", optional (range '0' '5'), digit])

/-- A truth value. -/
def boolForm : Pattern :=
  words ["yes", "Yes", "YES", "no", "No", "NO", "true", "True", "TRUE", "false", "False", "FALSE",
    "on", "On", "ON", "off", "Off", "OFF"]

/-- A number with a point. -/
def floatForm : Pattern :=
  anyOf [
    row [sign, digit, many spacedDigit, oneOf ".", many spacedDigit, exponentPart],
    row [oneOf ".", digit, many spacedDigit, exponentPart],
    row [sign, digit, many spacedDigit, sixties, oneOf ".", many spacedDigit],
    row [sign, oneOf ".", words ["inf", "Inf", "INF"]],
    row [oneOf ".", words ["nan", "NaN", "NAN"]]]

/-- A whole number in base two, eight, ten, sixteen or sixty. -/
def intForm : Pattern :=
  anyOf [
    row [sign, word "0b", Pattern.some (oneOf "01_")],
    row [sign, word "0", Pattern.some (either (range '0' '7') (oneOf "_"))],
    row [sign, either (oneOf "0") (row [range '1' '9', many spacedDigit])],
    row [sign, word "0x",
      Pattern.some (anyOf [digit, range 'a' 'f', range 'A' 'F', oneOf "_"])],
    row [sign, range '1' '9', many spacedDigit, sixties]]

/-- The null value, which may be left out. -/
def nullForm : Pattern := either empty (words ["~", "null", "Null", "NULL"])

/-- A day or a moment. -/
def timestampForm : Pattern :=
  let two := row [digit, digit]
  let oneOrTwo := row [digit, optional digit]
  let gap := oneOf " \t"
  anyOf [
    row [two, two, oneOf "-", two, oneOf "-", two],
    row [two, two, oneOf "-", oneOrTwo, oneOf "-", oneOrTwo,
      either (oneOf "Tt") (Pattern.some gap),
      oneOrTwo, oneOf ":", two, oneOf ":", two,
      optional (row [oneOf ".", many digit]),
      optional (row [many gap,
        either (oneOf "Z") (row [oneOf "-+", oneOrTwo, optional (row [oneOf ":", two])])])]]

/-- The forms with their tags, in the order in which they are tried. -/
def forms : List (Pattern × Text) := [
  (boolForm, ValueKind.bool.tag),
  (floatForm, ValueKind.float.tag),
  (intForm, ValueKind.int.tag),
  (word "<<", mergeTag),
  (nullForm, ValueKind.null.tag),
  (timestampForm, ValueKind.timestamp.tag),
  (word "=", wholeTag),
  (oneOf "!&*", commonTag "yaml")]

/-- A text without a line feed at its end. A lone line feed stays. -/
def withoutLastBreak (t : Text) : Text :=
  if t.length > 1 ∧ t.getLast? = some (.scalar '\n') then t.dropLast else t

/-- The tag of a plain scalar. A line feed at its end does not count. -/
def plainTag (content : Text) : Text :=
  let form := withoutLastBreak content
  ((forms.find? fun entry => entry.1.isMatch form).map (·.2)).getD ValueKind.text.tag

end Markup
end ClassMold
