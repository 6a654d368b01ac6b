import Flowmeter.Association
import Flowmeter.Text.Lines
import Flowmeter.Flow.Counters
import Flowmeter.Flow.Key
import Flowmeter.Flow.Line

/-!
# Snapshots

A snapshot is what one reading of the connection table amounts to: the sum of the counters of
all flows with one key, for every key that occurs. Lines that describe no flow are passed over
and only counted, so one bad line does not spoil the rest; a counter with too many digits does
refuse the table as a whole.
-/

set_option autoImplicit false

namespace Flowmeter

open Flowmeter.Text

/-- The counters of every key of a table, in order of first appearance. -/
abbrev Snapshot := Table Key Counters

namespace Snapshot

/-- The snapshot with one more flow counted in. -/
def count (snapshot : Snapshot) (flow : Flow) : Snapshot :=
  snapshot.put flow.key (snapshot.getD flow.key Counters.zero + flow.counters)

/-- The sum of flows by key. -/
def ofFlows (flows : List Flow) : Snapshot :=
  flows.foldl count Table.empty

end Snapshot

/-- A snapshot, and how many lines describe a flow and how many do not. -/
structure Survey where
  snapshot : Snapshot
  accepted : Nat
  rejected : Nat

namespace Survey

/-- The lines of a table text that are not blank. -/
def records (text : String) : List Line :=
  ((lines text.toList).map Line.ofText).filter (fun line => !line.isEmpty)

/-- The survey of what the lines describe. -/
def ofReadings (readings : List (Option Flow)) : Survey where
  snapshot := Snapshot.ofFlows (readings.filterMap id)
  accepted := (readings.filterMap id).length
  rejected := readings.countP (·.isNone)

/-- The survey of a table text, unless one of its counters is refused. -/
def ofText (text : String) : Except Line.OversizedCounter Survey :=
  ((records text).mapM Line.read).map ofReadings

end Survey

/-- Why a table text has no snapshot. -/
inductive SnapshotFault where
  /-- No line describes a flow. -/
  | noFlows
  | oversizedCounter (fault : Line.OversizedCounter)
deriving DecidableEq, Repr

def SnapshotFault.message : SnapshotFault → String
  | .noFlows => "no conntrack entries parsed from nf_conntrack"
  | .oversizedCounter fault => fault.message

/-- The snapshot of a table text. -/
def Snapshot.ofText (text : String) : Except SnapshotFault Snapshot :=
  match Survey.ofText text with
  | .error fault => .error (.oversizedCounter fault)
  | .ok survey => if survey.accepted = 0 then .error .noFlows else .ok survey.snapshot

end Flowmeter
