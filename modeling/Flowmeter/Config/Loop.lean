/-!
# Loops

Things with numbers hold others as parts. A loop is a set of things each of which holds all of
them, itself included, directly or through others. A thing belongs to one loop at most.

Along a loop the numbers cannot go up for ever, so every loop has a member that is part of
something whose number is no smaller. Only those members have to be tried, and a document that
never refers back has none.
-/

set_option autoImplicit false

namespace Flowmeter.Config

/-- The parts of each thing, by their numbers. -/
abbrev Parts := Array (List Nat)

namespace Parts

/-- The parts of the thing of a number. -/
def of (parts : Parts) (n : Nat) : List Nat := parts.getD n []

/-- How many parts there are, each counted as often as it occurs. -/
def count (parts : Parts) : Nat :=
  parts.foldl (fun k ps => k + ps.length) 0

/-- Marks what `ahead` and its parts reach, `seen` being marked already. The fuel bounds how
    many parts are looked at. -/
def mark (parts : Parts) : Nat → List Nat → Array Bool → Array Bool
  | 0, _, seen => seen
  | _ + 1, [], seen => seen
  | fuel + 1, n :: ahead, seen =>
      if seen.getD n true then parts.mark fuel ahead seen
      else parts.mark fuel (parts.of n ++ ahead) (seen.setIfInBounds n true)

/-- What the parts of a thing reach. -/
def reach (parts : Parts) (n : Nat) : Array Bool :=
  parts.mark (2 * parts.count + 1) (parts.of n) (Array.replicate parts.size false)

/-- For each thing, what it is a part of. -/
def holders (parts : Parts) : Parts :=
  (List.range parts.size).foldl
    (fun holders n =>
      (parts.of n).foldl (fun holders m => holders.modify m (n :: ·)) holders)
    (Array.replicate parts.size [])

/-- The loop that a thing belongs to; empty if there is none. -/
def loopOf (parts : Parts) (n : Nat) : List Nat :=
  let below := parts.reach n
  let above := parts.holders.reach n
  (List.range parts.size).filter (fun m => below.getD m false && above.getD m false)

/-- What is part of something whose number is no smaller. -/
def referredBack (parts : Parts) : List Nat :=
  let holders := parts.holders
  (List.range parts.size).filter (fun n => (holders.of n).any (n ≤ ·))

def loops (parts : Parts) : List (List Nat) :=
  parts.referredBack.foldl
    (fun loops n =>
      if (parts.of n).isEmpty || loops.any (·.contains n) then loops
      else
        let loop := parts.loopOf n
        if loop.isEmpty then loops else loop :: loops)
    []

end Parts

end Flowmeter.Config
