import ClassMold.Markup.Fault
import ClassMold.Markup.Tag

/-!
The nodes of a markup document. An alias stands for a node that is written elsewhere, perhaps for one that
the alias stands in, so the nodes are numbered and refer to their parts by number.
-/
namespace ClassMold
namespace Markup

/-- What a node holds. The parts of a collection are given by their numbers. -/
inductive Content where
  | scalar (text : Text)
  | sequence (items : List Nat)
  | mapping (entries : List (Nat × Nat))

/-- The kind of a node that holds something. -/
def Content.kind : Content → NodeKind
  | scalar _ => .scalar
  | sequence _ => .sequence
  | mapping _ => .mapping

/-- A node with its tag and the place where it starts. -/
structure Node where
  tag : Text
  content : Content
  place : Place

namespace Node

/-- The node for something that is left out. -/
def missing (place : Place) : Node := ⟨ValueKind.null.tag, .scalar [], place⟩

instance : Inhabited Node := ⟨missing ⟨0, 0, 0⟩⟩

/-- The kind of a node. -/
def kind (node : Node) : NodeKind := node.content.kind

/-- The entries of a node, of which only mappings have some. -/
def entries (node : Node) : List (Nat × Nat) :=
  match node.content with
  | .mapping entries => entries
  | _ => []

end Node

/-- Nodes by their numbers. -/
structure Graph where
  nodes : Array Node

namespace Graph

/-- No nodes. -/
def empty : Graph := ⟨#[]⟩

/-- The node with a number. -/
def node (graph : Graph) (number : Nat) : Node := graph.nodes.getD number default

/-- One more node, and its number. -/
def add (graph : Graph) (node : Node) : Nat × Graph :=
  (graph.nodes.size, ⟨graph.nodes.push node⟩)

/-- Changes the node with a number. -/
def modify (graph : Graph) (number : Nat) (change : Node → Node) : Graph :=
  ⟨graph.nodes.modify number change⟩

/-- The number of entries of all mappings. -/
def entryCount (graph : Graph) : Nat :=
  graph.nodes.foldl (fun count node => count + node.entries.length) 0

end Graph
end Markup
end ClassMold
