import ClassMold.Text.Category

/-!
Identifiers of the generated code. They are stricter than the language asks: letters, connectors and
currency signs may start one and decimal digits may follow, so combining marks never appear.
-/
namespace ClassMold

namespace CodePoint

/-- A code point that may start an identifier. -/
def startsIdentifier (c : CodePoint) : Bool := c.isLetter || c.isConnectorOrCurrency

/-- A code point that may stand in an identifier after its start. -/
def continuesIdentifier (c : CodePoint) : Bool := c.startsIdentifier || c.isDecimalDigit

end CodePoint

/-- The words that the language keeps for itself. A lone underscore is one of them. -/
def reservedWords : List Text := List.map Text.ofString [
  "_", "abstract", "assert", "boolean", "break", "byte", "case", "catch", "char", "class", "const",
  "continue", "default", "do", "double", "else", "enum", "extends", "false", "final", "finally",
  "float", "for", "goto", "if", "implements", "import", "instanceof", "int", "interface", "long",
  "native", "new", "null", "package", "private", "protected", "public", "return", "short", "static",
  "strictfp", "super", "switch", "synchronized", "this", "throw", "throws", "transient", "true",
  "try", "void", "volatile", "while"]

/-- Whether a text is one of the reserved words. -/
def Text.isReserved (t : Text) : Bool := reservedWords.contains t

/-- Whether a text is an identifier, and so can name a class. -/
def Text.isIdentifier (t : Text) : Bool :=
  match t with
  | [] => false
  | first :: rest =>
    !t.isReserved && first.startsIdentifier && rest.all CodePoint.continuesIdentifier

end ClassMold
