import ClassMold.Markup.Cursor
import ClassMold.Text.Quoted
import ClassMold.Text.Utf8

/-!
What is wrong with a markup document: what was being done, what went wrong, and where. The two places are
shown both unless they are the same.
-/
namespace ClassMold
namespace Markup

/-- What was being done when something went wrong. -/
inductive Task where
  | findingToken
  | scanningKey
  | scanningDirective
  | scanningAlias
  | scanningAnchor
  | scanningTag
  | readingTag
  | readingDirective
  | scanningBlockScalar
  | scanningDoubleQuoted
  | scanningQuoted
  | readingNode
  | readingBlockNode
  | readingFlowNode
  | readingBlockCollection
  | readingBlockMapping
  | readingFlowSequence
  | readingFlowMapping
  /-- An anchor is met that stands elsewhere as well. -/
  | meetingAnchor (name : Text)
  | expectingOneDocument
  | buildingMapping
  | buildingOrderedMap
  | buildingPairs
  deriving DecidableEq

/-- The wording of a task. -/
def Task.message : Task → Text
  | findingToken => "while scanning for the next token"
  | scanningKey => "while scanning a simple key"
  | scanningDirective => "while scanning a directive"
  | scanningAlias => "while scanning an alias"
  | scanningAnchor => "while scanning an anchor"
  | scanningTag => "while scanning a tag"
  | readingTag => "while parsing a tag"
  | readingDirective => "while parsing a directive"
  | scanningBlockScalar => "while scanning a block scalar"
  | scanningDoubleQuoted => "while scanning a double-quoted scalar"
  | scanningQuoted => "while scanning a quoted scalar"
  | readingNode => "while parsing a node"
  | readingBlockNode => "while parsing a block node"
  | readingFlowNode => "while parsing a flow node"
  | readingBlockCollection => "while parsing a block collection"
  | readingBlockMapping => "while parsing a block mapping"
  | readingFlowSequence => "while parsing a flow sequence"
  | readingFlowMapping => "while parsing a flow mapping"
  | meetingAnchor name => "found duplicate anchor " ++ name.quoted ++ "; first occurrence"
  | expectingOneDocument => "expected a single document in the stream"
  | buildingMapping => "while constructing a mapping"
  | buildingOrderedMap => "while constructing an ordered map"
  | buildingPairs => "while constructing pairs"

/-- What would have been right in place of a code point. -/
inductive Wanted where
  | nameCharacter
  | digit
  | digitOrPoint
  | digitOrSpace
  | space
  | commentOrBreak
  | exclamationMark
  | closingAngle
  | uri
  | uriEscape
  | scalarEscape (length : Nat)
  | scalarIndicators
  deriving DecidableEq

/-- The wording of what would have been right. -/
def Wanted.message : Wanted → Text
  | nameCharacter => "alphabetic or numeric character"
  | digit => "a digit"
  | digitOrPoint => "a digit or '.'"
  | digitOrSpace => "a digit or ' '"
  | space => "' '"
  | commentOrBreak => "a comment or a line break"
  | exclamationMark => "'!'"
  | closingAngle => "'>'"
  | uri => "URI"
  | uriEscape => "URI escape sequence of 2 hexadecimal numbers"
  | scalarEscape length => "escape sequence of " ++ Text.ofNat length ++ " hexadecimal numbers"
  | scalarIndicators => "chomping or indentation indicators"

/-- The kinds of nodes. -/
inductive NodeKind where
  | scalar
  | sequence
  | mapping
  deriving DecidableEq

/-- What messages call a kind of node. -/
def NodeKind.name : NodeKind → Text
  | scalar => "scalar"
  | sequence => "sequence"
  | mapping => "mapping"

/-- What went wrong. -/
inductive Flaw where
  /-- No token starts with the code point. -/
  | strayCharacter (found : CodePoint)
  | missingColon
  | misplacedEntry
  | misplacedKey
  | misplacedValue
  | unexpected (wanted : Wanted) (found : Option CodePoint)
  | zeroIndentation
  | unknownEscape (found : Option CodePoint)
  | endInQuotes
  | separatorInQuotes
  | badUriBytes (error : Utf8.DecodeError)
  | repeatedVersion
  | foreignVersion
  | repeatedHandle (handle : Text)
  | unknownHandle (handle : Text)
  | noDocumentStart (found : Text)
  | noContent (found : Text)
  | noBlockEnd (found : Text)
  | noSequenceEnd (found : Text)
  | noMappingEnd (found : Text)
  | unknownAlias (name : Text)
  | secondAnchor
  | secondDocument
  | notOfKind (wanted found : NodeKind)
  | notMergeable (found : NodeKind)
  | notMergeableItem (found : NodeKind)
  | unhashableKey
  | notSequence (found : NodeKind)
  | notPair (found : NodeKind)
  | notSingle (count : Nat)
  | unknownTag (tag : Text)
  | notAscii (first : CodePoint) (start stop : Nat)
  | badPadding
  | strayBase64 (count : Nat)
  deriving DecidableEq

/-- A code point in a message; the end of the text is shown as U+0000. -/
def foundText (found : Option CodePoint) : Text := Text.quoted [found.getD (.scalar '\x00')]

/-- A code point that is not ASCII in a message. -/
def escapeForm (c : CodePoint) : Text :=
  if c.val < 0x100 then "\\x" ++ Text.hex 2 c.val
  else if c.val < 0x10000 then "\\u" ++ Text.hex 4 c.val
  else "\\U" ++ Text.hex 8 c.val

/-- The wording of what went wrong. -/
def Flaw.message : Flaw → Text
  | strayCharacter found =>
    "found character " ++ Text.quoted [found] ++ " that cannot start any token"
  | missingColon => "could not find expected ':'"
  | misplacedEntry => "sequence entries are not allowed here"
  | misplacedKey => "mapping keys are not allowed here"
  | misplacedValue => "mapping values are not allowed here"
  | unexpected wanted found => "expected " ++ wanted.message ++ ", but found " ++ foundText found
  | zeroIndentation => "expected indentation indicator in the range 1-9, but found 0"
  | unknownEscape found => "found unknown escape character " ++ foundText found
  | endInQuotes => "found unexpected end of stream"
  | separatorInQuotes => "found unexpected document separator"
  | badUriBytes error => error.message
  | repeatedVersion => "found duplicate YAML directive"
  | foreignVersion => "found incompatible YAML document (version 1.* is required)"
  | repeatedHandle handle => "duplicate tag handle " ++ handle.quoted
  | unknownHandle handle => "found undefined tag handle " ++ handle.quoted
  | noDocumentStart found => "expected '<document start>', but found " ++ found.quoted
  | noContent found => "expected the node content, but found " ++ found.quoted
  | noBlockEnd found => "expected <block end>, but found " ++ found.quoted
  | noSequenceEnd found => "expected ',' or ']', but got " ++ found.quoted
  | noMappingEnd found => "expected ',' or '\x7d', but got " ++ found.quoted
  | unknownAlias name => "found undefined alias " ++ name.quoted
  | secondAnchor => "second occurrence"
  | secondDocument => "but found another document"
  | notOfKind wanted found => "expected a " ++ wanted.name ++ " node, but found " ++ found.name
  | notMergeable found =>
    "expected a mapping or list of mappings for merging, but found " ++ found.name
  | notMergeableItem found => "expected a mapping for merging, but found " ++ found.name
  | unhashableKey => "found unhashable key"
  | notSequence found => "expected a sequence, but found " ++ found.name
  | notPair found => "expected a mapping of length 1, but found " ++ found.name
  | notSingle count => "expected a single mapping item, but found " ++ Text.ofNat count ++ " items"
  | unknownTag tag => "could not determine a constructor for the tag " ++ tag.quoted
  | notAscii first start stop =>
    let place : Text :=
      if start = stop then "character '" ++ escapeForm first ++ "' in position " ++ Text.ofNat start
      else "characters in position " ++ Text.ofNat start ++ "-" ++ Text.ofNat stop
    "failed to convert base64 data into ascii: 'ascii' codec can't encode " ++ place ++
      ": ordinal not in range(128)"
  | badPadding => "failed to decode base64 data: Incorrect padding"
  | strayBase64 count =>
    "failed to decode base64 data: Invalid base64-encoded string: number of data characters (" ++
      Text.ofNat count ++ ") cannot be 1 more than a multiple of 4"

/-- A flaw with its place, and the task with the place where it began. -/
structure Fault where
  task : Option (Task × Option Place)
  flaw : Flaw
  place : Place
  deriving DecidableEq

/-- A place in a document of a given name. -/
def Place.message (name : Text) (p : Place) : Text :=
  "  in \"" ++ name ++ "\", line " ++ Text.ofNat (p.line + 1) ++ ", column " ++
    Text.ofNat (p.column + 1)

/-- The lines that tell what was being done. -/
def Fault.taskLines (name : Text) (f : Fault) : List Text :=
  match f.task with
  | none => []
  | some (task, none) => [task.message]
  | some (task, some start) =>
    if start.line = f.place.line ∧ start.column = f.place.column then [task.message]
    else [task.message, start.message name]

/-- The wording of a fault in a document of a given name. -/
def Fault.message (name : Text) (f : Fault) : Text :=
  Text.joinWith "\n" (f.taskLines name ++ [f.flaw.message, f.place.message name])

/-- A fault without a task. -/
def Flaw.at (flaw : Flaw) (place : Place) : Fault := ⟨none, flaw, place⟩

/-- A fault during a task. -/
def Flaw.during (flaw : Flaw) (task : Task) (start place : Place) : Fault :=
  ⟨some (task, some start), flaw, place⟩

end Markup
end ClassMold
