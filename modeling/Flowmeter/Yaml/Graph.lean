import Flowmeter.Text.CodePoint
import Flowmeter.Yaml.Tag

/-!
# Graphs of nodes

A document is a graph of nodes: scalars, sequences and mappings, each with a tag. Nodes are
numbered in the order in which they begin. A collection holds the numbers of its parts, and an
alias is the number of the node that it names; so a node with two names is still one node, and
a collection may be part of itself.
-/

set_option autoImplicit false

namespace Flowmeter.Yaml

open Flowmeter.Text (CodePoint)

/-- A node, its parts given by their numbers. -/
inductive Node where
  | scalar (tag : Tag) (text : List CodePoint)
  | sequence (tag : Tag) (items : List Nat)
  | mapping (tag : Tag) (entries : List (Nat × Nat))

namespace Node

/-- The node of no characters. -/
def empty : Node := .scalar .null []

/-- The tag of a node. -/
def tag : Node → Tag
  | .scalar tag _ | .sequence tag _ | .mapping tag _ => tag

/-- The node with another tag. -/
def withTag (tag : Tag) : Node → Node
  | .scalar _ text => .scalar tag text
  | .sequence _ items => .sequence tag items
  | .mapping _ entries => .mapping tag entries

/-- The entries of a mapping; none for anything else. -/
def entries : Node → List (Nat × Nat)
  | .mapping _ entries => entries
  | _ => []

/-- The mapping with other entries; anything else stays as it is. -/
def withEntries (entries : List (Nat × Nat)) : Node → Node
  | .mapping tag _ => .mapping tag entries
  | node => node

end Node

/-- The nodes of a document by their numbers. -/
structure Graph where
  nodes : Array Node

namespace Graph

def empty : Graph := ⟨#[]⟩

/-- How many nodes there are, which is also the number of the next one. -/
def size (g : Graph) : Nat := g.nodes.size

/-- The node of a number. -/
def get (g : Graph) (n : Nat) : Node := g.nodes.getD n .empty

/-- The tag of the node of a number. -/
def tag (g : Graph) (n : Nat) : Tag := (g.get n).tag

/-- The graph with one more node. -/
def add (g : Graph) (node : Node) : Graph := ⟨g.nodes.push node⟩

/-- The graph with another node in the place of one. -/
def set (g : Graph) (n : Nat) (node : Node) : Graph := ⟨g.nodes.setIfInBounds n node⟩

end Graph

end Flowmeter.Yaml
