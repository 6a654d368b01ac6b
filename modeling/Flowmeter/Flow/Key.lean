import Flowmeter.Flow.Entry
import Flowmeter.Flow.Port

/-!
# Keys

Flows are counted together when they agree in addresses, protocols and destination port. The
source port is left out, so the many short connections of one client to one server are one
key. The service is part of the key for its label only: it is a function of the port.
-/

set_option autoImplicit false

namespace Flowmeter

/-- What flows counted together have in common. -/
structure Key where
  source : String
  destination : String
  network : String
  transport : String
  port : String
  service : String
deriving DecidableEq, Repr

/-- The key of a flow. A flow without ports has the port and service that say so. -/
def Flow.key (flow : Flow) : Key :=
  let port := if flow.hasPorts then flow.original.destinationPort else Port.noPort
  let service :=
    if flow.hasPorts then Port.service flow.original.destinationPort else Port.noService
  { source := flow.original.source
    destination := flow.original.destination
    network := flow.network
    transport := flow.transport
    port := port
    service := service }

/-- The names of the labels, in the order in which they are declared. -/
def Key.labelNames : List String :=
  ["src", "dst", "l3protocol", "l4protocol", "l7protocol", "dport"]

/-- What a key says under each name. -/
def Key.labelValues (key : Key) : List String :=
  [key.source, key.destination, key.network, key.transport, key.service, key.port]

/-- The labels of a sample of a key: names and values are paired by their places. -/
def Key.labels (key : Key) : List (String × String) :=
  labelNames.zip key.labelValues

/-- The two orders agree: each name stands before what it names. -/
theorem Key.labels_eq (key : Key) : key.labels =
    [("src", key.source), ("dst", key.destination), ("l3protocol", key.network),
     ("l4protocol", key.transport), ("l7protocol", key.service), ("dport", key.port)] :=
  rfl

end Flowmeter
