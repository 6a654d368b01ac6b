import Flowmeter.Yaml.Graph
import Flowmeter.Yaml.Lexer

/-!
# Reading nodes

A document is read by recursive descent; every function below reads one production and is named
for it. A node may be named by an anchor, and an alias stands for the node of its name. A
collection is in the graph, and named, before its parts are read, so it can be among them.

Recursion is bounded by an amount of fuel that the length of the text provides.
-/

set_option autoImplicit false

namespace Flowmeter.Yaml

open Flowmeter.Text (CodePoint)

/-- The state of reading nodes: the tokens ahead, the handles of tags, the nodes read so far,
    and the numbers of those that are named. -/
structure Reader where
  lexer : Lexer
  handles : List (String × String)
  graph : Graph
  anchors : List (String × Nat)

abbrev Read := StateT Reader (Except Fault)

namespace Read

def peek : Read (Option Token) := do
  let r ← get
  let (t, l) ← (r.lexer.peek : Except Fault _)
  set { r with lexer := l }
  return t

/-- Passes over the next token. -/
def drop : Read Unit :=
  modify fun r => { r with lexer := r.lexer.drop }

/-- Whether the next token is one of those given. -/
def next (ts : List Token) : Read Bool := do
  match ← peek with
  | some t => return ts.contains t
  | none => return false

/-- Passes over the next token if it is the one given. -/
def accept (t : Token) : Read Bool := do
  if ← next [t] then
    drop
    return true
  else return false

/-- Passes over a token that must come next. -/
def require (t : Token) : Read Unit := do
  if !(← accept t) then throw .arrangement

/-! ## Properties of nodes -/

/-- An anchor, if one comes next. -/
def anchor? : Read (Option String) := do
  match ← peek with
  | some (.anchor name) => drop; return some name
  | _ => return none

/-- A tag, if one comes next. -/
def tag? : Read (Option TagText) := do
  match ← peek with
  | some (.tag t) => drop; return some t
  | _ => return none

/-- An anchor and a tag in either order. -/
def properties : Read (Option String × Option TagText) := do
  match ← anchor? with
  | some name => return (some name, ← tag?)
  | none =>
      match ← tag? with
      | some t => return (← anchor?, some t)
      | none => return (none, none)

/-- The full name of a tag. The handle must be known. -/
def fullTag (t : Option TagText) : Read (Option String) := do
  match t with
  | none => return none
  | some ⟨none, suffix⟩ => return some suffix
  | some ⟨some handle, suffix⟩ =>
      match (← get).handles.lookup handle with
      | some start => return some (start ++ suffix)
      | none => throw .arrangement

/-- Refuses a name that is taken. -/
def checkAnchor (name : Option String) : Read Unit := do
  match name with
  | none => return ()
  | some name =>
      if ((← get).anchors.lookup name).isSome then throw .reference

/-- Adds a node under a name, if it has one. -/
def add (name : Option String) (node : Node) : Read Nat := do
  checkAnchor name
  let n := (← get).graph.size
  modify fun r =>
    { r with
      graph := r.graph.add node
      anchors := match name with
        | some name => (name, n) :: r.anchors
        | none => r.anchors }
  return n

/-- Puts a node in the place of another. -/
def put (n : Nat) (node : Node) : Read Unit :=
  modify fun r => { r with graph := r.graph.set n node }

/-- Adds a sequence and reads its items. -/
def sequence (name : Option String) (tag : Tag) (items : Read (List Nat)) : Read Nat := do
  let n ← add name (.sequence tag [])
  put n (.sequence tag (← items))
  return n

/-- Adds a mapping and reads its entries. -/
def mapping (name : Option String) (tag : Tag) (entries : Read (List (Nat × Nat))) :
    Read Nat := do
  let n ← add name (.mapping tag [])
  put n (.mapping tag (← entries))
  return n

/-- The tag of a collection. -/
def collectionTag (name : Option String) (plain : Tag) : Tag :=
  match name with
  | none => plain
  | some "!" => plain
  | some name => Tag.ofName name

/-- The tag of a scalar: by its spelling if it is plain and has no tag. -/
def scalarTag (name : Option String) (text : List CodePoint) (plain : Bool) : Tag :=
  match name with
  | none => if plain then Tag.ofSpelling (text.map CodePoint.toChar) else .str
  | some "!" => Tag.ofSpelling (text.map CodePoint.toChar)
  | some name => Tag.ofName name

/-- Adds the node of no characters. -/
def emptyNode : Read Nat := add none .empty

/-! ## Productions -/

mutual

/-- A node. In block style it may be a block collection; as a value of a mapping it may be a
    sequence that is not indented. -/
def node (block unindented : Bool) : Nat → Read Nat
  | 0 => throw .arrangement
  | fuel + 1 => do
      match ← peek with
      | some (.alias name) =>
          drop
          match (← get).anchors.lookup name with
          | some n => return n
          | none => throw .reference
      | _ =>
          let (name, tagText) ← properties
          let tagName ← fullTag tagText
          let start ← peek
          let sequence := sequence name (collectionTag tagName .seq)
          let mapping := mapping name (collectionTag tagName .map)
          let scalar (text : List CodePoint) (plain : Bool) : Read Nat :=
            add name (.scalar (scalarTag tagName text plain) text)
          let empty : Read Nat :=
            if name.isSome || tagName.isSome then scalar [] true else throw .arrangement
          match start with
          | some (.scalar text plain) =>
              drop
              scalar text plain
          | some .flowSequenceStart => sequence (do drop; flowItems true fuel)
          | some .flowMappingStart => mapping (do drop; flowEntries true fuel)
          | some .blockEntry => if unindented then sequence (unindentedItems fuel) else empty
          | some .blockSequenceStart =>
              if block then sequence (do drop; blockItems fuel) else empty
          | some .blockMappingStart =>
              if block then mapping (do drop; blockEntries fuel) else empty
          | _ => empty

/-- A node, or the empty node where one of the given tokens comes next. -/
def nodeUnless (block unindented : Bool) (ends : List Token) : Nat → Read Nat
  | 0 => throw .arrangement
  | fuel + 1 => do
      if ← next ends then emptyNode
      else node block unindented fuel

/-- The items of a block sequence. -/
def blockItems : Nat → Read (List Nat)
  | 0 => throw .arrangement
  | fuel + 1 => do
      if ← accept .blockEntry then
        let item ← nodeUnless true false [.blockEntry, .blockEnd] fuel
        return item :: (← blockItems fuel)
      else
        require .blockEnd
        return []

/-- The items of a sequence that is not indented. -/
def unindentedItems : Nat → Read (List Nat)
  | 0 => throw .arrangement
  | fuel + 1 => do
      if ← accept .blockEntry then
        let item ← nodeUnless true false [.blockEntry, .key, .value, .blockEnd] fuel
        return item :: (← unindentedItems fuel)
      else return []

/-- The entries of a block mapping. -/
def blockEntries : Nat → Read (List (Nat × Nat))
  | 0 => throw .arrangement
  | fuel + 1 => do
      let ends : List Token := [.key, .value, .blockEnd]
      let value : Read Nat := do
        if ← accept .value then nodeUnless true true ends fuel else emptyNode
      if ← accept .key then
        let key ← nodeUnless true true ends fuel
        let value ← value
        return (key, value) :: (← blockEntries fuel)
      else
        require .blockEnd
        return []

/-- The items of a flow sequence, commas between them. A pair among them is a mapping of one
    entry. -/
def flowItems (first : Bool) : Nat → Read (List Nat)
  | 0 => throw .arrangement
  | fuel + 1 => do
      if ← accept .flowSequenceEnd then return []
      else
        if !first then require .flowEntry
        if ← next [.key] then
          let ends : List Token := [.flowEntry, .flowSequenceEnd]
          drop
          let pair ← mapping none .map (do
            let key ← nodeUnless false false (.value :: ends) fuel
            let value ← if ← accept .value then nodeUnless false false ends fuel else emptyNode
            return [(key, value)])
          return pair :: (← flowItems false fuel)
        else if ← accept .flowSequenceEnd then return []
        else
          let item ← node false false fuel
          return item :: (← flowItems false fuel)

/-- The entries of a flow mapping, commas between them. An entry may be a key alone. -/
def flowEntries (first : Bool) : Nat → Read (List (Nat × Nat))
  | 0 => throw .arrangement
  | fuel + 1 => do
      if ← accept .flowMappingEnd then return []
      else
        if !first then require .flowEntry
        if ← accept .key then
          let ends : List Token := [.flowEntry, .flowMappingEnd]
          let key ← nodeUnless false false (.value :: ends) fuel
          let value ← if ← accept .value then nodeUnless false false ends fuel else emptyNode
          return (key, value) :: (← flowEntries false fuel)
        else if ← accept .flowMappingEnd then return []
        else
          let key ← node false false fuel
          let value ← emptyNode
          return (key, value) :: (← flowEntries false fuel)

end

/-! ## Documents -/

/-- The handles that every document knows. -/
def standardHandles : List (String × String) :=
  [("!", "!"), ("!!", standardStart)]

/-- The directives before a document: at most one version, of the first generation, and no
    handle twice. -/
def directives : Nat → Bool → List (String × String) → Read (List (String × String))
  | 0, _, _ => throw .arrangement
  | fuel + 1, versioned, handles => do
      match ← peek with
      | some (.directive d) =>
          drop
          match d with
          | .version major _ =>
              if versioned || major != 1 then throw .arrangement
              directives fuel true handles
          | .tag handle start =>
              if (handles.lookup handle).isSome then throw .arrangement
              directives fuel versioned ((handle, start) :: handles)
          | .other => directives fuel versioned handles
      | _ => return handles

/-- Passes over ends of documents. -/
def documentEnds : Nat → Read Unit
  | 0 => throw .arrangement
  | fuel + 1 => do
      if ← accept .documentEnd then documentEnds fuel

/-- What a document begins with: nothing, if its content comes at once, or directives and a
    mark. Whether a document begins at all. -/
def documentStart (first : Bool) (fuel : Nat) : Read Bool := do
  let content ←
    match ← peek with
    | some (.directive _) | some .documentStart | some .streamEnd => pure false
    | _ => pure first
  if content then
    modify fun r => { r with handles := standardHandles }
    return true
  else
    documentEnds fuel
    if ← next [.streamEnd] then return false
    else
      let handles ← directives fuel false []
      modify fun r => { r with handles := handles ++ standardHandles }
      require .documentStart
      return true

/-- The only document of a text; nothing if there is none. -/
def document (fuel : Nat) : Read (Option Nat) := do
  match ← peek with
  | some (.directive _) | some .documentStart | some .streamEnd =>
      if !(← documentStart true fuel) then return none
      let content ←
        match ← peek with
        | some (.directive _) => emptyNode
        | _ => nodeUnless true false [.documentStart, .documentEnd, .streamEnd] fuel
      finish content
  | _ =>
      let _ ← documentStart true fuel
      finish (← node true false fuel)
where
  /-- What follows a document: its end, and then nothing. -/
  finish (content : Nat) : Read (Option Nat) := do
    let _ ← accept .documentEnd
    if ← documentStart false fuel then throw .reference
    return some content

end Read

/-- The nodes of the only document of a source and the number of the topmost one, if there is a
    document. -/
def Graph.ofSource (source : Source) : Except Fault (Graph × Option Nat) := do
  let fuel := 8 * source.text.length + 64
  let (root, reader) ←
    (Read.document fuel).run ⟨Lexer.new source, Read.standardHandles, Graph.empty, []⟩
  return (reader.graph, root)

end Flowmeter.Yaml
