import ClassMold.Markup.Node.Grammar
import ClassMold.Markup.Token.Lexer

/-!
The document in a markup text: directives and marks around the root node. A text holds one document or
none.
-/
namespace ClassMold
namespace Markup

/-- What tags with the common handles start with. -/
def commonHandles : List (Text × Text) := [("!", "!"), ("!!", commonStart)]

/-- What the directives before a document say, and the tokens after them. -/
structure Preamble where
  versioned : Bool
  handles : List (Text × Text)
  rest : List Token

/-- Reads the directives before a document. -/
def readDirectives (exhausted : Refusal) (versioned : Bool) (handles : List (Text × Text)) :
    List Token → Except Refusal Preamble
  | [] => .error exhausted
  | token :: rest =>
    match token.kind with
    | .directive (.version major _) =>
      if versioned then refuse (Flaw.repeatedVersion.at token.start)
      else if major ≠ 1 then refuse (Flaw.foreignVersion.at token.start)
      else readDirectives exhausted true handles rest
    | .directive (.handle handle start) =>
      if handles.any (·.1 == handle) then refuse ((Flaw.repeatedHandle handle).at token.start)
      else readDirectives exhausted versioned (handles ++ [(handle, start)]) rest
    | .directive .other => readDirectives exhausted versioned handles rest
    | _ => .ok ⟨versioned, handles, token :: rest⟩

/-- Reads the directives before a document and the mark that has to follow. -/
def readPreamble (exhausted : Refusal) (tokens : List Token) : Except Refusal Preamble :=
  match readDirectives exhausted false [] tokens with
  | .error e => .error e
  | .ok preamble =>
    match preamble.rest with
    | [] => .error exhausted
    | token :: rest =>
      if token.kind = .documentStart then .ok { preamble with rest := rest }
      else refuse ((Flaw.noDocumentStart token.kind.name).at token.start)

/-- Where a document without content ends. -/
def endsDocument : TokenKind → Bool
  | .directive _ => true
  | .documentStart => true
  | .documentEnd => true
  | .streamEnd => true
  | _ => false

/-- No second document may follow the root. Marks at the end of a document may be repeated. -/
def checkEnd (exhausted : Refusal) (root : Place) : List Token → Except Refusal Unit
  | [] => .error exhausted
  | token :: rest =>
    match token.kind with
    | .documentEnd => checkEnd exhausted root rest
    | .streamEnd => .ok ()
    | _ =>
      match readPreamble exhausted (token :: rest) with
      | .error e => .error e
      | .ok _ => refuse (Flaw.secondDocument.during .expectingOneDocument root token.start)

/-- The nodes of a document and the number of its root. -/
structure RootedGraph where
  graph : Graph
  root : Nat

/-- The document in the tokens of a text, if there is one. -/
def readRoot (exhausted : Refusal) (tokens : List Token) : Except Refusal (Option RootedGraph) :=
  match tokens with
  | [] => .error exhausted
  | token :: rest =>
    match token.kind with
    | .streamEnd => .ok none
    | kind =>
      if endsDocument kind ∧ kind ≠ .documentEnd then
        match readPreamble exhausted (token :: rest) with
        | .error e => .error e
        | .ok preamble =>
          let setting : Setting := ⟨exhausted, preamble.handles ++ commonHandles⟩
          match preamble.rest with
          | [] => .error exhausted
          | next :: _ =>
            finish (readOptional setting .block endsDocument next.start ⟨.empty, []⟩ preamble.rest)
      else
        finish (readOptional ⟨exhausted, commonHandles⟩ .block (fun _ => false) token.start
          ⟨.empty, []⟩ (token :: rest))
where
  /-- The document after what follows its root is checked. -/
  finish {bound : Nat} (step : Except Refusal (Step Nat bound)) : Except Refusal (Option RootedGraph) :=
    match step with
    | .error e => .error e
    | .ok root =>
      let graph := root.draft.graph
      match checkEnd exhausted (graph.node root.value).place root.rest with
      | .error e => .error e
      | .ok () => .ok (some ⟨graph, root.value⟩)

/-- The document in a file that is read, if there is one. -/
def RootedGraph.read (file : Delivery) : Except Refusal (Option RootedGraph) :=
  let tokens := Tokens.ofDelivery file
  readRoot tokens.exhausted tokens.list

end Markup
end ClassMold
