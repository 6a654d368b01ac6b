import Flowmeter.Config.Document
import Flowmeter.Yaml.Content
import Flowmeter.Yaml.Node

/-!
# Documents of files

What the nodes of a file stand for makes up a document. Only a file without faults holds one.
-/

set_option autoImplicit false

namespace Flowmeter.Yaml

open Flowmeter.Config

/-- The value that contents stand for, given those of the parts. -/
def Content.value (part : Nat → Value) : Content → Value
  | .scalar s => .scalar s
  | .list items => .list (items.map part)
  | .pairs items => .list (items.map fun p => .pair (part p.1) (part p.2))
  | .set members => .set members
  | .map entries => .map (entries.map fun e => (e.1, part e.2))

/-- The document whose value is that of a node, given what all nodes stand for. Scalars are
    written where they stand, collections keep the numbers of their nodes. -/
def documentOf (contents : Array (Option Content)) (top : Nat) : Document :=
  let part (n : Nat) : Value :=
    match contents.getD n none with
    | some (.scalar s) => .scalar s
    | _ => .enclosing n
  ⟨contents.map (fun content => (content.getD default).value part), part top⟩

/-- The only document of a file; one that says nothing if there is none. -/
def read (bytes : List UInt8) : Except Fault Document := do
  match ← Graph.ofSource (Source.ofBytes bytes) with
  | (_, none) => return .null
  | (g, some top) => return documentOf (← g.contents top) top

end Flowmeter.Yaml
