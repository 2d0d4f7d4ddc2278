import ClassMold.Identifier
import ClassMold.Text.Case

/-!
Names of classes, fields and accessors from the keys of a sample. Sanitizing never fails: a key
without a usable code point gives an empty name.
-/
namespace ClassMold

/-- The underscore, which separates words in keys. -/
def underscore : CodePoint := .scalar '_'

/-- Raises the first letter, which only connectors and currency signs may precede. -/
def capitalizeFirstLetter : Text → Text
  | [] => []
  | c :: rest =>
    if c.isLetter then c.toUpper ++ rest
    else if c.isConnectorOrCurrency then c :: capitalizeFirstLetter rest
    else c :: rest

/-- Drops one leading code point that cannot start an identifier. Only one: what comes to stand
first may still be a digit. -/
def dropBadStart : Text → Text
  | [] => []
  | c :: rest => if c.startsIdentifier then c :: rest else rest

/-- The name of the type that an object under this key is declared with. -/
def typeName (key : Text) : Text :=
  capitalizeFirstLetter ((dropBadStart key).filter CodePoint.continuesIdentifier)

/-- Removes runs of underscores and raises the code point after each. A run with nothing after it
becomes one underscore. The flag tells whether a run has just been passed. -/
def joinWords : (afterRun : Bool) → Text → Text
  | false, [] => []
  | true, [] => [underscore]
  | afterRun, c :: rest =>
    if c = underscore then joinWords true rest
    else (if afterRun then c.toUpper else [c]) ++ joinWords false rest

/-- Camel case. A leading underscore is kept and does not count as part of a run. -/
def camelCase : Text → Text
  | [] => []
  | c :: rest => if c = underscore then c :: joinWords false rest else joinWords false (c :: rest)

/-- Lowers the first code point, except in names that start with two upper-case ones. -/
def lowerStart : Text → Text
  | [] => []
  | [c] => if c.isUpper then c.toLower else [c]
  | c :: d :: rest => if c.isUpper && !d.isUpper then c.toLower ++ d :: rest else c :: d :: rest

/-- Puts an underscore before a leading digit. -/
def guardDigit : Text → Text
  | [] => []
  | c :: rest => if c.isDecimalDigit then underscore :: c :: rest else c :: rest

/-- Puts an underscore after a reserved word. -/
def guardReserved (name : Text) : Text := if name.isReserved then name ++ [underscore] else name

/-- The plural of a key: an `s` at its end unless one is there. -/
def plural (key : Text) : Text := if key.endsWith "s" then key else key ++ "s"

/-- A key as a chain of words: it starts with a code point that identifiers allow, and underscores
stand for those that they do not. -/
def words (key : Text) : Text :=
  (key.dropWhile (!·.continuesIdentifier)).map fun c =>
    if c.continuesIdentifier then c else underscore

/-- The name of the field that holds the value under this key. -/
def fieldName (key : Text) (isArray : Bool) : Text :=
  let key := if isArray then plural key else key
  guardReserved (guardDigit (lowerStart (camelCase (words key))))

/-- A name without the `s` at its end, which undoes `plural` where that added one. -/
def singular (name : Text) : Text := if name.endsWith "s" then name.dropLast else name

/-- A name with its first code point raised, as it follows `get` or `set` in an accessor's name. -/
def capitalized : Text → Text
  | [] => []
  | c :: rest => c.toUpper ++ rest

end ClassMold
