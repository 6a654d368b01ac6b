import Flowmeter.Yaml.Fault
import Flowmeter.Yaml.Graph

/-!
# Merge keys

A mapping may take over the entries of others by a merge key. Those come first, so that its own
entries win; of several mappings under one key the first wins. Taking over changes the mapping
itself, wherever else it is used, and may be asked for of a mapping that is being changed
already: the key is taken out before the mapping under it is looked at, so a mapping can take
over its own entries.
-/

set_option autoImplicit false

namespace Flowmeter.Yaml

/-- A change of a graph, which may find a fault in it. -/
abbrev Change := StateT Graph (Except Fault)

namespace Change

/-- The entries of a mapping. -/
def entries (n : Nat) : Change (List (Nat × Nat)) :=
  return ((← get).get n).entries

/-- Gives a mapping other entries. -/
def setEntries (n : Nat) (entries : List (Nat × Nat)) : Change Unit :=
  modify fun g => g.set n ((g.get n).withEntries entries)

/-- Takes the first merge key out of a mapping. Gives what stands under it. -/
def takeMergeKey (n : Nat) : Change (Option Nat) := do
  let g ← get
  let (before, rest) := (← entries n).span (fun e => g.tag e.1 != .merge)
  match rest with
  | [] => return none
  | (_, value) :: after =>
      setEntries n (before ++ after)
      return some value

/-- Makes keys of the tag for values texts. -/
def plainKeys (n : Nat) : Change Unit := do
  for (key, _) in ← entries n do
    modify fun g =>
      if g.tag key = .value then g.set key ((g.get key).withTag .str) else g

mutual

/-- Gives a mapping the entries that it takes over. The fuel bounds how many merge keys are
    taken out on the way. -/
def mergeEntries : Nat → Nat → Change Unit
  | 0, _ => return ()
  | fuel + 1, n => do
      let taken ← takenOver fuel n
      setEntries n (taken ++ (← entries n))
      plainKeys n

/-- The entries that a mapping takes over. -/
def takenOver : Nat → Nat → Change (List (Nat × Nat))
  | 0, _ => return []
  | fuel + 1, n => do
      match ← takeMergeKey n with
      | none => return []
      | some value =>
          let first ← match (← get).get value with
            | .mapping _ _ =>
                mergeEntries fuel value
                entries value
            | .sequence _ items =>
                let parts ← items.mapM fun item => do
                  match (← get).get item with
                  | .mapping _ _ =>
                      mergeEntries fuel item
                      entries item
                  | _ => throw .value
                pure parts.reverse.flatten
            | _ => throw .value
          return first ++ (← takenOver fuel n)

end

end Change

/-- How many merge keys there are in a graph. -/
def Graph.mergeKeys (g : Graph) : Nat :=
  g.nodes.foldl (fun k node => k + (node.entries.filter (fun e => g.tag e.1 = .merge)).length) 0

end Flowmeter.Yaml
