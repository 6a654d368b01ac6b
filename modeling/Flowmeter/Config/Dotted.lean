import Flowmeter.Config.Mismatch
import Flowmeter.Text.Blank

/-!
# Dotted names

A setting is named by the keys on the way to it with dots between them. Looking up a name
walks mappings; writing under a name makes the mappings that are missing, and puts a mapping
in the place of whatever else stands on the way.
-/

set_option autoImplicit false

namespace Flowmeter.Config

open Flowmeter.Text

/-- The keys that a dotted name consists of. There is always at least one. -/
def keysOf (name : String) : List String :=
  (pieces (· == '.') name.toList).map String.ofList

/-- What stands under a list of keys. -/
def Value.find? : Value → List String → Option Value
  | v, [] => some v
  | v, key :: rest =>
      match v.unfold with
      | .map entries =>
          match entries.lookup (.text key) with
          | some part => part.find? rest
          | none => none
      | _ => none

/-- The entries of a mapping; none for anything else. -/
def Value.entries : Value → List (Scalar × Value)
  | .map entries => entries
  | _ => []

/-- The entries with a value under a list of keys. -/
def insertAt : List String → Value → List (Scalar × Value) → List (Scalar × Value)
  | [], _, entries => entries
  | [key], v, entries => Association.put (.text key) v entries
  | key :: next :: rest, v, entries =>
      let inner := ((entries.lookup (.text key)).map Value.entries).getD []
      Association.put (.text key) (.map (insertAt (next :: rest) v inner)) entries

/-- Whether a text or a list has a key as a part. -/
def Value.mentions (key : String) : Value → Bool
  | .scalar (.text s) => hasInfixOf key.toList s.toList
  | _ => false

/-- What is wrong with writing under keys in something that is no mapping. A single key is
    written at once; of several the first is looked for before. -/
def insertFault (v : Value) (keys : List String) : Mismatch :=
  match v.kind, keys with
  | .list, _ => .placeNotNumber
  | .text, key :: _ :: _ => if v.mentions key then .textPlaceNotNumber else .noPlaces .text
  | .bytes, _ :: _ :: _ => .notBytes .text
  | .set, _ => .noPlaces .set
  | .pair, _ => .noPlaces .pair
  | kind, _ :: _ :: _ => .noMembers kind
  | kind, _ => .noPlaces kind

/-- The value with another under a dotted name. -/
def Value.insert (v : Value) (name : String) (new : Value) : Except Mismatch Value :=
  match v with
  | .map entries => .ok (.map (insertAt (keysOf name) new entries))
  | _ => .error (insertFault v (keysOf name))

end Flowmeter.Config
