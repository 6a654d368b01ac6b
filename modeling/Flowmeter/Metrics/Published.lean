import Flowmeter.Ledger

/-!
# What a scraper sees

Two kinds of series are published. The gauges are the last snapshot and are replaced by the
next one; the counters are sums over all changes so far and only grow. `Accounts` holds them
beside the ledger that produces the changes, and moves both by one snapshot at a time, so no
scraper sees a half-applied one.
-/

set_option autoImplicit false

namespace Flowmeter

/-- The published series: the last snapshot, how often each key was new, and the sum of its
    rises. -/
structure Published where
  snapshot : Snapshot
  connections : Table Key Nat
  totals : Table Key Counters

namespace Published

def empty : Published := ⟨Table.empty, Table.empty, Table.empty⟩

instance : Inhabited Published := ⟨empty⟩

/-- The total of a key, nought if it never had traffic. -/
def total (published : Published) (key : Key) : Counters :=
  published.totals.getD key Counters.zero

/-- How often a key was new. -/
def connectionCount (published : Published) (key : Key) : Nat :=
  published.connections.getD key 0

/-- One more connection of a key. -/
def countConnection (connections : Table Key Nat) (key : Key) : Table Key Nat :=
  connections.put key (connections.getD key 0 + 1)

/-- The totals with the rise of a key added. -/
def addRise (totals : Table Key Counters) (rise : Key × Counters) : Table Key Counters :=
  totals.put rise.1 (totals.getD rise.1 Counters.zero + rise.2)

/-- The series after a snapshot and what it adds. -/
def publish (published : Published) (snapshot : Snapshot) (change : Change) : Published where
  snapshot := snapshot
  connections := change.newKeys.foldl countConnection published.connections
  totals := change.rises.entries.foldl addRise published.totals

end Published

/-- The ledger and the series published from it. -/
structure Accounts where
  ledger : Ledger
  published : Published

namespace Accounts

/-- The accounts before the first cycle. -/
def empty : Accounts := ⟨Ledger.empty, Published.empty⟩

instance : Inhabited Accounts := ⟨empty⟩

/-- The accounts after a snapshot. -/
def record (accounts : Accounts) (snapshot : Snapshot) : Accounts where
  ledger := accounts.ledger.advance snapshot
  published := accounts.published.publish snapshot (accounts.ledger.change snapshot)

/-- The accounts after a cycle on a table text: a text without snapshot changes nothing. -/
def cycle (accounts : Accounts) (text : String) : Accounts :=
  match Snapshot.ofText text with
  | .error _ => accounts
  | .ok snapshot => accounts.record snapshot

end Accounts

end Flowmeter
