import Flowmeter.Metrics.Exposition

/-!
# Instruments

Besides the traffic the program counts its own work: cycles by result, completed cycles, the
time and size of the last one, and scrapes by their status. A child of a labelled counter
exists from its first use on.
-/

set_option autoImplicit false

namespace Flowmeter

/-- What the program counts about itself. -/
structure Instruments where
  cycles : Table String Nat
  durations : Nat
  lastSuccess : Nat
  trackedKeys : Nat
  scrapes : Table String Nat

namespace Instruments

def empty : Instruments := ⟨Table.empty, 0, 0, 0, Table.empty⟩

instance : Inhabited Instruments := ⟨empty⟩

/-- One more of a child. -/
def bump (children : Table String Nat) (child : String) : Table String Nat :=
  children.put child (children.getD child 0 + 1)

/-- One more cycle with a result. -/
def countCycle (i : Instruments) (result : String) : Instruments :=
  { i with cycles := bump i.cycles result }

/-- One more completed cycle: when it completed and how many keys it published. -/
def countSuccess (i : Instruments) (now keys : Nat) : Instruments :=
  { i.countCycle "success" with
    durations := i.durations + 1, lastSuccess := now, trackedKeys := keys }

/-- One more scrape with a status. -/
def countScrape (i : Instruments) (status : Nat) : Instruments :=
  { i with scrapes := bump i.scrapes (toString status) }

/-- The samples of a labelled counter. -/
def children (label : String) (table : Table String Nat) : List Sample :=
  table.entries.map fun e => ⟨[(label, e.1)], e.2⟩

/-- The families of the instruments. -/
def families (i : Instruments) : List Family :=
  [⟨"conntrack_exporter_cycles", "Collection cycles by result", .counter,
      children "result" i.cycles⟩,
   ⟨"conntrack_exporter_cycle_duration_seconds",
      "Duration of one read/aggregate/reconcile/publish cycle", .histogram,
      [⟨[], i.durations⟩]⟩,
   ⟨"conntrack_exporter_last_success_timestamp_seconds",
      "Unix time of the last successfully published cycle", .gauge, [⟨[], i.lastSuccess⟩]⟩,
   ⟨"conntrack_exporter_tracked_keys",
      "Aggregation keys present in the last published snapshot", .gauge,
      [⟨[], i.trackedKeys⟩]⟩,
   ⟨"conntrack_exporter_scrape_requests", "Telemetry endpoint requests by HTTP status code",
      .counter, children "code" i.scrapes⟩]

end Instruments

end Flowmeter
