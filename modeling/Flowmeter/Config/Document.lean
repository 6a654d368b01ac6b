import Flowmeter.Config.Dotted
import Flowmeter.Config.Loop

/-!
# Documents

The collections of a document have numbers. One that is a part of several others is still one
collection, and collections may hold each other. So a setting that is written into a mapping is
there wherever that mapping is a part (`insert`). When nothing more is to be written, a
document comes down to a value (`resolve`).
-/

set_option autoImplicit false

namespace Flowmeter.Config

/-- Collections by their numbers, and a value. What is `.enclosing` in any of them is the
    collection of that number. -/
structure Document where
  collections : Array Value
  value : Value

/-! ## Parts -/

mutual

/-- The numbers of the collections that are parts of a value. -/
def Value.parts : Value → List Nat
  | .enclosing number => [number]
  | .list items => Value.partsOfItems items
  | .pair first second => first.parts ++ second.parts
  | .map entries => Value.partsOfEntries entries
  | .scalar _ | .set _ | .loop _ _ => []

/-- The numbers of the collections that are parts of the items of a list. -/
def Value.partsOfItems : List Value → List Nat
  | [] => []
  | v :: rest => v.parts ++ Value.partsOfItems rest

/-- The numbers of the collections that are parts of the entries of a mapping. -/
def Value.partsOfEntries : List (Scalar × Value) → List Nat
  | [] => []
  | (_, v) :: rest => v.parts ++ Value.partsOfEntries rest

end

namespace Document

/-- The document that says nothing. -/
def null : Document := ⟨#[], .null⟩

/-- A value, a collection itself in the place of its number. -/
def look (d : Document) : Value → Value
  | .enclosing number => d.collections.getD number .null
  | v => v

/-! ## Writing -/

/-- The last mapping with a number on the way along some keys, which begins at entries, and the
    keys that lead on from there. -/
def home? (d : Document) : List String → List (Scalar × Value) → Option (Nat × List String)
  | key :: next :: rest, entries =>
      match entries.lookup (.text key) with
      | none => none
      | some part =>
          match part, d.look part with
          | .enclosing number, .map inner =>
              -- a mapping with a number further on is nearer to what is written
              some ((d.home? (next :: rest) inner).getD (number, next :: rest))
          | _, .map inner => d.home? (next :: rest) inner
          | _, _ => none
  | _, _ => none

/-- The document with a value under some keys. -/
def insert (d : Document) (keys : List String) (new : Value) : Document :=
  let write (keys : List String) (v : Value) : Value := .map (insertAt keys new v.entries)
  match d.home? keys d.value.entries with
  | some (number, keys) => { d with collections := d.collections.modify number (write keys) }
  | none => { d with value := write keys d.value }

end Document

/-! ## Filling in -/

section

variable {m : Type → Type} [Monad m]

mutual

/-- A value with collections in the place of their numbers, given how they are put together. -/
def Value.fill (part : Nat → m Value) : Value → m Value
  | .enclosing number => part number
  | .list items => return .list (← Value.fillItems part items)
  | .pair first second => return .pair (← first.fill part) (← second.fill part)
  | .map entries => return .map (← Value.fillEntries part entries)
  | .scalar s => return .scalar s
  | .set members => return .set members
  | .loop members number => return .loop members number

/-- The items of a list with collections in the place of their numbers. -/
def Value.fillItems (part : Nat → m Value) : List Value → m (List Value)
  | [] => return []
  | v :: rest => return (← v.fill part) :: (← Value.fillItems part rest)

/-- The entries of a mapping with collections in the place of their numbers. -/
def Value.fillEntries (part : Nat → m Value) : List (Scalar × Value) → m (List (Scalar × Value))
  | [] => return []
  | (k, v) :: rest => return (k, ← v.fill part) :: (← Value.fillEntries part rest)

end

end

/-! ## Resolving -/

/-- Putting values together, those of collections being remembered. -/
abbrev Assembly := StateM (Array (Option Value))

namespace Assembly

/-- Remembers the value of a collection. -/
def remember (number : Nat) (v : Value) : Assembly Unit :=
  modify fun values => values.setIfInBounds number (some v)

/-- The value of a collection. The fuel bounds how deep it is nested. -/
def collection (collections : Array Value) (loops : List (List Nat)) :
    Nat → Nat → Assembly Value
  | 0, _ => return .null
  | fuel + 1, number => do
      let written (number : Nat) : Value := collections.getD number .null
      match (← get).getD number none with
      | some v => return v
      | none =>
          match loops.find? (·.contains number) with
          | none =>
              let v ← (written number).fill (collection collections loops fuel)
              remember number v
              return v
          -- none of a loop can come down to a value before the others, so they do so together
          | some loop =>
              let part (n : Nat) : Assembly Value :=
                if loop.contains n then return .enclosing (loop.idxOf n)
                else collection collections loops fuel n
              let members ← loop.mapM fun n => (written n).fill part
              loop.forM fun n => remember n (.loop members (loop.idxOf n))
              return .loop members (loop.idxOf number)

end Assembly

namespace Document

/-- What the collections of a document come down to, by their numbers. Collections that hold
    each other become a loop. -/
def values (d : Document) : List Value :=
  let loops := Parts.loops (d.collections.map Value.parts)
  let fuel := d.collections.size + 1
  let all := (List.range d.collections.size).mapM
    (Assembly.collection d.collections loops fuel)
  (all.run (Array.replicate d.collections.size none)).1

/-- What a value comes down to in a document. -/
def valueOf (d : Document) (v : Value) : Value :=
  let values := d.values.toArray
  (v.fill (m := Id) (fun number => values.getD number .null)).run

/-- What a document comes down to. -/
def resolve (d : Document) : Value := d.valueOf d.value

end Document

end Flowmeter.Config
