import ClassMold.Markup.Node
import ClassMold.Markup.Token

/-!
Nodes from tokens. A token is looked at only when it is needed, so a fault of the tokens counts only if no
fault of the nodes comes before it. Each step gives back the tokens that are left with a proof that they
are no more than before.
-/
namespace ClassMold
namespace Markup

/-- The nodes so far, and the anchors with the numbers of the nodes that they stand for. -/
structure Draft where
  graph : Graph
  anchors : List (Text × Nat)

namespace Draft

/-- The number of the node with an anchor. -/
def find? (draft : Draft) (name : Text) : Option Nat :=
  (draft.anchors.find? (·.1 == name)).map (·.2)

/-- One more node, and its number. If it has an anchor, that must be a new one. -/
def add (draft : Draft) (anchor : Option Text) (node : Node) : Except Refusal (Nat × Draft) :=
  let (number, graph) := draft.graph.add node
  match anchor with
  | none => .ok (number, { draft with graph })
  | some name =>
    match draft.find? name with
    | none => .ok (number, ⟨graph, (name, number) :: draft.anchors⟩)
    | some first =>
      refuse (Flaw.secondAnchor.during (.meetingAnchor name) (draft.graph.node first).place node.place)

/-- Gives a node its content, which may hold the node itself. -/
def fill (draft : Draft) (number : Nat) (content : Content) : Draft :=
  { draft with graph := draft.graph.modify number fun node => { node with content } }

end Draft

/-- What is known while the nodes of a document are read. -/
structure Setting where
  /-- Why there are no more tokens than those at hand. -/
  exhausted : Refusal
  /-- What tags with a handle start with. -/
  handles : List (Text × Text)

/-- What a step yields, and the tokens that are left, which are at most so many. -/
structure Step (α : Type) (bound : Nat) where
  value : α
  draft : Draft
  rest : List Token
  le : rest.length ≤ bound

/-- What is written in front of the content of a node. -/
structure Properties (tokens : List Token) where
  anchor : Option Text
  tag : Option (Option Text × Text)
  tagPlace : Place
  start : Option Place
  rest : List Token
  le : rest.length ≤ tokens.length
  /-- Properties take tokens. -/
  lt : start.isSome → rest.length < tokens.length

/-- The anchor and the tag of a node, which come in either order. -/
def readProperties (setting : Setting) (tokens : List Token) : Except Refusal (Properties tokens) :=
  match tokens with
  | [] => .error setting.exhausted
  | first :: rest =>
    match first.kind with
    | .anchor anchor =>
      match rest with
      | [] => .error setting.exhausted
      | second :: later =>
        match second.kind with
        | .tag handle ending =>
          .ok ⟨some anchor, some (handle, ending), second.start, some first.start, later, by grind,
            by grind⟩
        | _ =>
          .ok ⟨some anchor, none, first.start, some first.start, second :: later, by simp, by simp⟩
    | .tag handle ending =>
      match rest with
      | [] => .error setting.exhausted
      | second :: later =>
        match second.kind with
        | .anchor anchor =>
          .ok ⟨some anchor, some (handle, ending), first.start, some first.start, later, by grind,
            by grind⟩
        | _ =>
          .ok ⟨none, some (handle, ending), first.start, some first.start, second :: later, by simp,
            by simp⟩
    | _ => .ok ⟨none, none, first.start, none, first :: rest, by simp, by simp⟩

/-- The tag of a node in full. -/
def fullTag (setting : Setting) {tokens : List Token} (properties : Properties tokens) :
    Except Refusal (Option Text) :=
  match properties.tag with
  | none => .ok none
  | some (none, ending) => .ok (some ending)
  | some (some handle, ending) =>
    match setting.handles.find? (·.1 == handle) with
    | some (_, start) => .ok (some (start ++ ending))
    | none =>
      refuse ((Flaw.unknownHandle handle).during .readingNode
        (properties.start.getD properties.tagPlace) properties.tagPlace)

/-- The tag of a collection; one that is left open is that of the kind. -/
def collectionTag (kind : ValueKind) (tag : Option Text) : Text :=
  match tag with
  | none => kind.tag
  | some tag => if tag = openTag then kind.tag else tag

/-- The tag of a scalar; one that is left open depends on the content, unless that is quoted. -/
def scalarTag (tag : Option Text) (content : Text) (plain : Bool) : Text :=
  match tag with
  | none => if plain then plainTag content else ValueKind.text.tag
  | some tag => if tag = openTag then plainTag content else tag

/-- Which nodes may stand somewhere. -/
inductive Position where
  /-- Inside brackets or braces. -/
  | flow
  /-- In a block. -/
  | block
  /-- In a block mapping, where the entries of a sequence need no deeper indentation. -/
  | blockValue
  deriving DecidableEq

/-- What is read where content is missing. -/
def Position.task : Position → Task
  | flow => .readingFlowNode
  | block => .readingBlockNode
  | blockValue => .readingBlockNode

/-- Where an entry of a block collection has no content. -/
def endsBlockItem : TokenKind → Bool
  | .blockEntry => true
  | .blockEnd => true
  | _ => false

/-- Where a key or a value of a block mapping has no content. -/
def endsBlockPart : TokenKind → Bool
  | .key => true
  | .value => true
  | .blockEnd => true
  | _ => false

/-- Where an entry of a sequence inside a block mapping has no content. -/
def endsIndentlessItem (kind : TokenKind) : Bool := kind == .blockEntry || endsBlockPart kind

/-- Where a value between brackets or braces has no content. -/
def endsFlowValue (close : TokenKind) (kind : TokenKind) : Bool := kind == .flowEntry || kind == close

/-- Where a key between brackets or braces has no content. -/
def endsFlowKey (close : TokenKind) (kind : TokenKind) : Bool :=
  kind == .value || endsFlowValue close kind

/-- A scalar as a step that leaves some tokens. -/
def addScalar (draft : Draft) (anchor tag : Option Text) (content : Text) (plain : Bool)
    (place : Place) {bound : Nat} (rest : List Token) (le : rest.length ≤ bound) :
    Except Refusal (Step Nat bound) :=
  match draft.add anchor ⟨scalarTag tag content plain, .scalar content, place⟩ with
  | .error e => .error e
  | .ok (number, draft) => .ok ⟨number, draft, rest, le⟩

/-- A missing node as a step that takes no token. -/
def addMissing (draft : Draft) (place : Place) {bound : Nat} (rest : List Token)
    (le : rest.length ≤ bound) : Step Nat bound :=
  let (number, graph) := draft.graph.add (.missing place)
  ⟨number, { draft with graph }, rest, le⟩

/-- The step that ends a collection: its node gets the parts that were read. -/
def fillWith {α : Type} (number : Nat) (content : α → Content) {shorter bound : Nat}
    (le : shorter ≤ bound) (parts : Except Refusal (Step α shorter)) : Except Refusal (Step Nat bound) :=
  match parts with
  | .error e => .error e
  | .ok parts =>
    .ok ⟨number, parts.draft.fill number (content parts.value), parts.rest, Nat.le_trans parts.le le⟩

mutual

/-- A node. -/
def readNode (setting : Setting) (position : Position) (draft : Draft) (tokens : List Token) :
    Except Refusal (Step Nat (tokens.length - 1)) :=
  match readProperties setting tokens with
  | .error e => .error e
  | .ok properties =>
    match fullTag setting properties with
    | .error e => .error e
    | .ok tag =>
      match h : properties.rest with
      | [] => .error setting.exhausted
      | token :: rest =>
        have le := properties.le
        have length : properties.rest.length = rest.length + 1 := by simp [h]
        have shorter : rest.length ≤ tokens.length - 1 := by omega
        let place := properties.start.getD token.start
        let named := properties.anchor
        let sequence : Node := ⟨collectionTag .sequence tag, .sequence [], place⟩
        let mapping : Node := ⟨collectionTag .mapping tag, .mapping [], place⟩
        match token.kind with
        | .reference name =>
          if written : properties.start.isSome then
            addScalar draft named tag [] true place (token :: rest)
              (by have := properties.lt written; grind)
          else
            match draft.find? name with
            | some number => .ok ⟨number, draft, rest, by omega⟩
            | none => refuse ((Flaw.unknownAlias name).at token.start)
        | .scalar content plain => addScalar draft named tag content plain place rest shorter
        | .flowSequenceStart =>
          match draft.add named sequence with
          | .error e => .error e
          | .ok (number, draft) =>
            fillWith number .sequence shorter (readFlowItems setting token.start true draft rest)
        | .flowMappingStart =>
          match draft.add named mapping with
          | .error e => .error e
          | .ok (number, draft) =>
            fillWith number .mapping shorter (readFlowEntries setting token.start true draft rest)
        | kind =>
          if kind = .blockEntry ∧ position = .blockValue then
            match draft.add named sequence with
            | .error e => .error e
            | .ok (number, draft) =>
              fillWith number .sequence shorter (readIndentlessItems setting token.stop draft rest)
          else if kind = .blockSequenceStart ∧ position ≠ .flow then
            match draft.add named sequence with
            | .error e => .error e
            | .ok (number, draft) =>
              fillWith number .sequence shorter (readBlockItems setting token.start draft rest)
          else if kind = .blockMappingStart ∧ position ≠ .flow then
            match draft.add named mapping with
            | .error e => .error e
            | .ok (number, draft) =>
              fillWith number .mapping shorter (readBlockEntries setting token.start draft rest)
          else if written : properties.start.isSome then
            addScalar draft named tag [] true place (token :: rest)
              (by have := properties.lt written; grind)
          else refuse ((Flaw.noContent kind.name).during position.task place token.start)
termination_by 4 * tokens.length + 1
decreasing_by
  all_goals grind

/-- A node, unless a token follows that shows that there is none. -/
def readOptional (setting : Setting) (position : Position) (ends : TokenKind → Bool) (place : Place)
    (draft : Draft) (tokens : List Token) : Except Refusal (Step Nat tokens.length) :=
  match tokens with
  | [] => .error setting.exhausted
  | token :: rest =>
    if ends token.kind then .ok (addMissing draft place (token :: rest) (Nat.le_refl _))
    else
      match readNode setting position draft (token :: rest) with
      | .error e => .error e
      | .ok node => .ok ⟨node.value, node.draft, node.rest, by have := node.le; grind⟩
termination_by 4 * tokens.length + 2

/-- The entries of a block sequence. -/
def readBlockItems (setting : Setting) (start : Place) (draft : Draft) (tokens : List Token) :
    Except Refusal (Step (List Nat) tokens.length) :=
  match tokens with
  | [] => .error setting.exhausted
  | token :: rest =>
    match token.kind with
    | .blockEntry =>
      match readOptional setting .block endsBlockItem token.stop draft rest with
      | .error e => .error e
      | .ok item =>
        match readBlockItems setting start item.draft item.rest with
        | .error e => .error e
        | .ok items =>
          .ok ⟨item.value :: items.value, items.draft, items.rest,
            by have := item.le; have := items.le; grind⟩
    | .blockEnd => .ok ⟨[], draft, rest, by simp⟩
    | kind => refuse ((Flaw.noBlockEnd kind.name).during .readingBlockCollection start token.start)
termination_by 4 * tokens.length
decreasing_by
  · grind
  · have := item.le; grind

/-- The entries of a sequence that is indented no deeper than the mapping around it, from the end of the
first hyphen on. -/
def readIndentlessItems (setting : Setting) (hyphen : Place) (draft : Draft)
    (tokens : List Token) : Except Refusal (Step (List Nat) tokens.length) :=
  match readOptional setting .block endsIndentlessItem hyphen draft tokens with
  | .error e => .error e
  | .ok item =>
    match h : item.rest with
    | [] => .error setting.exhausted
    | token :: rest =>
      have shorter : rest.length < tokens.length := by have := item.le; grind
      if token.kind = .blockEntry then
        match readIndentlessItems setting token.stop item.draft rest with
        | .error e => .error e
        | .ok items =>
          .ok ⟨item.value :: items.value, items.draft, items.rest, by have := items.le; omega⟩
      else .ok ⟨[item.value], item.draft, token :: rest, by grind⟩
termination_by 4 * tokens.length + 3
decreasing_by
  all_goals grind

/-- The value of an entry of a mapping, which may be missing. -/
def readValuePart (setting : Setting) (position : Position) (ends : TokenKind → Bool)
    (draft : Draft) (tokens : List Token) : Except Refusal (Step Nat tokens.length) :=
  match tokens with
  | [] => .error setting.exhausted
  | token :: rest =>
    match token.kind with
    | .value =>
      match readOptional setting position ends token.stop draft rest with
      | .error e => .error e
      | .ok value =>
        .ok ⟨value.value, value.draft, value.rest, by have := value.le; grind⟩
    | _ => .ok (addMissing draft token.start (token :: rest) (Nat.le_refl _))
termination_by 4 * tokens.length
decreasing_by
  grind

/-- The entries of a block mapping. -/
def readBlockEntries (setting : Setting) (start : Place) (draft : Draft) (tokens : List Token) :
    Except Refusal (Step (List (Nat × Nat)) tokens.length) :=
  match tokens with
  | [] => .error setting.exhausted
  | token :: rest =>
    match token.kind with
    | .blockEnd => .ok ⟨[], draft, rest, by simp⟩
    | .key =>
      match readOptional setting .blockValue endsBlockPart token.stop draft rest with
      | .error e => .error e
      | .ok key =>
        match readValuePart setting .blockValue endsBlockPart key.draft key.rest with
        | .error e => .error e
        | .ok value =>
          match readBlockEntries setting start value.draft value.rest with
          | .error e => .error e
          | .ok entries =>
            .ok ⟨(key.value, value.value) :: entries.value, entries.draft, entries.rest,
              by have := key.le; have := value.le; have := entries.le; grind⟩
    | kind => refuse ((Flaw.noBlockEnd kind.name).during .readingBlockMapping start token.start)
termination_by 4 * tokens.length
decreasing_by
  · grind
  · have := key.le; grind
  · have := key.le; have := value.le; grind

/-- The entries of a sequence in brackets. Between them stand commas, and one may follow the last. -/
def readFlowItems (setting : Setting) (start : Place) (first : Bool) (draft : Draft)
    (tokens : List Token) : Except Refusal (Step (List Nat) tokens.length) :=
  match tokens with
  | [] => .error setting.exhausted
  | token :: rest =>
    match token.kind with
    | .flowSequenceEnd => .ok ⟨[], draft, rest, by simp⟩
    | kind =>
      if first then readFlowItem setting start draft (token :: rest)
      else if kind = .flowEntry then
        match readFlowItem setting start draft rest with
        | .error e => .error e
        | .ok items => .ok ⟨items.value, items.draft, items.rest, by have := items.le; grind⟩
      else refuse ((Flaw.noSequenceEnd kind.name).during .readingFlowSequence start token.start)
termination_by 4 * tokens.length + 3
decreasing_by
  all_goals grind

/-- The entries of a sequence in brackets after a comma or at the start. An entry with a key stands for a
mapping of its own. -/
def readFlowItem (setting : Setting) (start : Place) (draft : Draft) (tokens : List Token) :
    Except Refusal (Step (List Nat) tokens.length) :=
  match tokens with
  | [] => .error setting.exhausted
  | token :: rest =>
    match token.kind with
    | .flowSequenceEnd => .ok ⟨[], draft, rest, by simp⟩
    | .key =>
      match readOptional setting .flow (endsFlowKey .flowSequenceEnd) token.stop draft rest with
      | .error e => .error e
      | .ok key =>
        match readValuePart setting .flow (endsFlowValue .flowSequenceEnd) key.draft key.rest with
        | .error e => .error e
        | .ok value =>
          match readFlowItems setting start false value.draft value.rest with
          | .error e => .error e
          | .ok items =>
            let entry := Content.mapping [(key.value, value.value)]
            let (pair, graph) := items.draft.graph.add ⟨ValueKind.mapping.tag, entry, token.start⟩
            .ok ⟨pair :: items.value, { items.draft with graph }, items.rest,
              by have := key.le; have := value.le; have := items.le; grind⟩
    | _ =>
      match readNode setting .flow draft (token :: rest) with
      | .error e => .error e
      | .ok item =>
        match readFlowItems setting start false item.draft item.rest with
        | .error e => .error e
        | .ok items =>
          .ok ⟨item.value :: items.value, items.draft, items.rest,
            by have := item.le; have := items.le; grind⟩
termination_by 4 * tokens.length + 2
decreasing_by
  · grind
  · have := key.le; grind
  · have := key.le; have := value.le; grind
  · grind
  · have := item.le; grind

/-- The entries of a mapping in braces. Between them stand commas, and one may follow the last. -/
def readFlowEntries (setting : Setting) (start : Place) (first : Bool) (draft : Draft)
    (tokens : List Token) : Except Refusal (Step (List (Nat × Nat)) tokens.length) :=
  match tokens with
  | [] => .error setting.exhausted
  | token :: rest =>
    match token.kind with
    | .flowMappingEnd => .ok ⟨[], draft, rest, by simp⟩
    | kind =>
      if first then readFlowEntry setting start draft (token :: rest)
      else if kind = .flowEntry then
        match readFlowEntry setting start draft rest with
        | .error e => .error e
        | .ok entries =>
          .ok ⟨entries.value, entries.draft, entries.rest, by have := entries.le; grind⟩
      else refuse ((Flaw.noMappingEnd kind.name).during .readingFlowMapping start token.start)
termination_by 4 * tokens.length + 3
decreasing_by
  all_goals grind

/-- The entries of a mapping in braces after a comma or at the start. A node without a mark before it is
a key without a value. -/
def readFlowEntry (setting : Setting) (start : Place) (draft : Draft) (tokens : List Token) :
    Except Refusal (Step (List (Nat × Nat)) tokens.length) :=
  match tokens with
  | [] => .error setting.exhausted
  | token :: rest =>
    match token.kind with
    | .flowMappingEnd => .ok ⟨[], draft, rest, by simp⟩
    | .key =>
      match readOptional setting .flow (endsFlowKey .flowMappingEnd) token.stop draft rest with
      | .error e => .error e
      | .ok key =>
        match readValuePart setting .flow (endsFlowValue .flowMappingEnd) key.draft key.rest with
        | .error e => .error e
        | .ok value =>
          match readFlowEntries setting start false value.draft value.rest with
          | .error e => .error e
          | .ok entries =>
            .ok ⟨(key.value, value.value) :: entries.value, entries.draft, entries.rest,
              by have := key.le; have := value.le; have := entries.le; grind⟩
    | _ =>
      match readNode setting .flow draft (token :: rest) with
      | .error e => .error e
      | .ok key =>
        match key.rest.head? with
        | none => .error setting.exhausted
        | some next =>
          match readFlowEntries setting start false key.draft key.rest with
          | .error e => .error e
          | .ok entries =>
            let (value, graph) := entries.draft.graph.add (.missing next.start)
            .ok ⟨(key.value, value) :: entries.value, { entries.draft with graph }, entries.rest,
              by have := key.le; have := entries.le; grind⟩
termination_by 4 * tokens.length + 2
decreasing_by
  · grind
  · have := key.le; grind
  · have := key.le; have := value.le; grind
  · grind
  · have := key.le; grind

end

end Markup
end ClassMold
