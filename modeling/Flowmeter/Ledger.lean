import Flowmeter.Snapshot

/-!
# The ledger

Counters of the kernel start anew whenever a connection does, so what a scraper may add up is
not their value but their rise from one snapshot to the next. The ledger keeps the last
snapshot as the baseline of the next rise, and every key ever seen. A key that leaves the
table loses its baseline: when it returns, all it shows is new traffic.
-/

set_option autoImplicit false

namespace Flowmeter

/-- What one snapshot adds: keys never seen before, and the rise of every key that has one. -/
structure Change where
  newKeys : List Key
  rises : Table Key Counters

/-- Whether there is nothing to add. -/
def Change.isEmpty (change : Change) : Bool :=
  change.newKeys.isEmpty && change.rises.isEmpty

/-- The last snapshot and every key seen so far. -/
structure Ledger where
  baseline : Snapshot
  seen : List Key

namespace Ledger

/-- The ledger before the first snapshot. -/
def empty : Ledger := ⟨Table.empty, []⟩

instance : Inhabited Ledger := ⟨empty⟩

/-- The rise of a key since the baseline, if any of its counters rose. -/
def rise? (ledger : Ledger) (key : Key) (now : Counters) : Option Counters :=
  let rise := now.rise (ledger.baseline.getD key Counters.zero)
  if rise.isZero then none else some rise

def change (ledger : Ledger) (now : Snapshot) : Change where
  newKeys := now.keys.filter (fun key => !ledger.seen.contains key)
  rises := now.filterMap ledger.rise?

/-- The ledger after a snapshot. -/
def advance (ledger : Ledger) (now : Snapshot) : Ledger where
  baseline := now
  seen := ledger.seen ++ (ledger.change now).newKeys

/-- How many keys the last snapshot has. -/
def tracked (ledger : Ledger) : Nat := ledger.baseline.size

end Ledger

end Flowmeter
