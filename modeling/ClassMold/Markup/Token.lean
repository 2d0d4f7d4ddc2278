import ClassMold.Markup.Refusal

/-!
The tokens of a markup text. Indentation is made explicit: a block collection starts and ends with tokens
of its own, and a key is marked even where the text only shows the colon after it.
-/
namespace ClassMold
namespace Markup

/-- A line that speaks about the document that follows. -/
inductive Directive where
  | version (major minor : Nat)
  /-- Tags that start with the handle start with the given text instead. -/
  | handle (handle start : Text)
  /-- A directive of another kind has no effect. -/
  | other
  deriving DecidableEq

/-- The kinds of tokens. -/
inductive TokenKind where
  | directive (directive : Directive)
  | documentStart
  | documentEnd
  | streamEnd
  | blockSequenceStart
  | blockMappingStart
  | blockEnd
  | flowSequenceStart
  | flowSequenceEnd
  | flowMappingStart
  | flowMappingEnd
  | key
  | value
  | blockEntry
  | flowEntry
  | reference (name : Text)
  | anchor (name : Text)
  /-- A tag as written: a handle, if there is one, and the rest. -/
  | tag (handle : Option Text) (rest : Text)
  | scalar (content : Text) (plain : Bool)
  deriving DecidableEq

/-- What messages call a token. -/
def TokenKind.name : TokenKind → Text
  | directive _ => "<directive>"
  | documentStart => "<document start>"
  | documentEnd => "<document end>"
  | streamEnd => "<stream end>"
  | blockSequenceStart => "<block sequence start>"
  | blockMappingStart => "<block mapping start>"
  | blockEnd => "<block end>"
  | flowSequenceStart => "["
  | flowSequenceEnd => "]"
  | flowMappingStart => "\x7b"
  | flowMappingEnd => "\x7d"
  | key => "?"
  | value => ":"
  | blockEntry => "-"
  | flowEntry => ","
  | reference _ => "<alias>"
  | anchor _ => "<anchor>"
  | tag .. => "<tag>"
  | scalar .. => "<scalar>"

/-- A token with the places of its start and its end. -/
structure Token where
  kind : TokenKind
  start : Place
  stop : Place

end Markup
end ClassMold
