import Flowmeter.Association
import Flowmeter.Yaml.Merge
import Flowmeter.Yaml.Scalar

/-!
# What nodes stand for

A scalar stands for a value, and a collection for its parts: a sequence for a list or for pairs,
a mapping for a mapping from scalars or for a set of them.

The nodes of a document are judged level by level: all parts of one level before any part of
the next. So the fault that is reported is the first of the highest level. A node is judged
once, however often it is a part.
-/

set_option autoImplicit false

namespace Flowmeter.Yaml

open Flowmeter.Config Flowmeter.Text

/-- What a node stands for, its parts given by their numbers. -/
inductive Content where
  | scalar (s : Scalar)
  | list (items : List Nat)
  | pairs (items : List (Nat × Nat))
  | set (members : List Scalar)
  | map (entries : List (Scalar × Nat))

instance : Inhabited Content := ⟨.scalar .null⟩

/-! ## Scalars -/

namespace Graph

/-- The text of a scalar. A mapping may name one by a key of the tag for values; the fuel
    bounds how many mappings lead to it. -/
def scalarText (g : Graph) : Nat → Nat → Except Fault (List CodePoint)
  | 0, _ => .error .value
  | fuel + 1, n =>
      match g.get n with
      | .scalar _ text => .ok text
      | .sequence _ _ => .error .value
      | .mapping _ entries =>
          match entries.find? (fun e => g.tag e.1 = .value) with
          | some (_, value) => g.scalarText fuel value
          | none => .error .value

/-- The text of a scalar. -/
def text (g : Graph) (n : Nat) : Except Fault (List CodePoint) :=
  g.scalarText (g.size + 1) n

/-- What a node stands for under a tag that is for scalars. A date is read from the node itself,
    which must not be a mapping. -/
def scalar (g : Graph) (n : Nat) : Except Fault Scalar := do
  let text ← g.text n
  match g.get n with
  | .mapping .timestamp _ => throw .mappingForInstant
  | node => scalarOf node.tag text

end Graph

/-! ## Keys -/

/-- What the keys of a mapping are told apart by: their value, or for what is no number the
    word for it, if that is how it is written, or else the node. -/
inductive KeyIdentity where
  | value (identity : Identity)
  | notANumber
  | node (n : Nat)
deriving DecidableEq

/-- What a key is told apart by. -/
def Graph.keyIdentity (g : Graph) (n : Nat) (key : Scalar) : KeyIdentity :=
  match key.identity with
  | some identity => .value identity
  | none =>
      match g.text n with
      | .ok text => if isNotANumberName text then .notANumber else .node n
      | .error _ => .node n

/-- The entries of a mapping. Of two entries with one key the first gives the key and its
    place, the second the value. -/
def uniqueEntries {ν : Type} (entries : List (KeyIdentity × Scalar × ν)) : List (Scalar × ν) :=
  let unique := entries.foldl
    (fun (known : List (KeyIdentity × Scalar × ν)) e =>
      let key := ((known.lookup e.1).map Prod.fst).getD e.2.1
      Association.put e.1 (key, e.2.2) known)
    []
  unique.map Prod.snd

/-! ## Judging -/

/-- The state of judging a graph: the graph and how many merge keys it had at first, what the
    nodes met so far stand for, and the collections among them in the order in which they are
    judged. -/
structure Judging where
  graph : Graph
  mergeKeys : Nat
  contents : Array (Option Content)
  collections : Array Nat

abbrev Judge := StateT Judging (Except Fault)

namespace Judge

/-- Whether a tag is for nodes that are judged later than the node that holds them. -/
def isLate : Tag → Bool
  | .omap | .pairs | .set | .seq | .map => true
  | _ => false

/-- Settles what a node stands for. -/
def settle (n : Nat) (content : Content) : Judge Unit :=
  modify fun j => { j with contents := j.contents.setIfInBounds n (some content) }

/-- What a node stands for, as far as it is known. -/
def content (n : Nat) : Judge (Option Content) :=
  return (← get).contents.getD n none

/-- Judges a node as a part: scalars at once, collections in their turn. -/
def part (n : Nat) : Judge Unit := do
  if (← content n).isNone then
    let g := (← get).graph
    if isLate (g.tag n) then
      settle n (.list [])
      modify fun j => { j with collections := j.collections.push n }
    else settle n (.scalar (← g.scalar n))

/-- Judges a key, which must be a scalar. -/
def key (n : Nat) : Judge (KeyIdentity × Scalar) := do
  part n
  match ← content n with
  | some (.scalar s) => return ((← get).graph.keyIdentity n s, s)
  | _ => throw .value

/-- Judges the entries of a mapping, those that it takes over included. -/
def entries (n : Nat) : Judge (List (Scalar × Nat)) := do
  match (← get).graph.get n with
  | .mapping _ _ =>
      let j ← get
      let ((), g) ← (Change.mergeEntries (2 * j.mergeKeys + 2) n).run j.graph
      set { j with graph := g }
      let entries ← (g.get n).entries.mapM fun e => do
        let (identity, key) ← key e.1
        part e.2
        return (identity, key, e.2)
      return uniqueEntries entries
  | _ => throw .value

/-- Judges the pairs of a sequence, each written as a mapping of one entry. -/
def pairs (n : Nat) : Judge (List (Nat × Nat)) := do
  match (← get).graph.get n with
  | .sequence _ items =>
      items.mapM fun item => do
        match (← get).graph.get item with
        | .mapping _ [(key, value)] =>
            part key
            part value
            return (key, value)
        | _ => throw .value
  | _ => throw .value

/-- Judges the parts of a collection. -/
def collection (n : Nat) : Judge Unit := do
  let g := (← get).graph
  match g.tag n, g.get n with
  | .seq, .sequence _ items =>
      items.forM part
      settle n (.list items)
  | .map, _ => settle n (.map (← entries n))
  | .set, _ => settle n (.set ((← entries n).map Prod.fst))
  | .omap, _ | .pairs, _ => settle n (.pairs (← pairs n))
  | _, _ => throw .value

/-- Judges the collections from a place on. The fuel bounds how many there are. -/
def collectionsFrom : Nat → Nat → Judge Unit
  | 0, _ => return ()
  | fuel + 1, place => do
      match (← get).collections[place]? with
      | none => return ()
      | some n =>
          collection n
          collectionsFrom fuel (place + 1)

end Judge

/-- What the nodes of a graph stand for, as far as they are parts of the topmost one. -/
def Graph.contents (g : Graph) (top : Nat) : Except Fault (Array (Option Content)) := do
  let judge : Judge Unit := do
    Judge.part top
    Judge.collectionsFrom (g.size + 1) 0
  let ((), j) ← judge.run ⟨g, g.mergeKeys, Array.replicate g.size none, #[]⟩
  return j.contents

end Flowmeter.Yaml
