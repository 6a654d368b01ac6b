/-!
# Flows

A flow is one tracked connection: two protocols, the addresses and ports of its two
directions, and what has passed in each. Addresses and ports are texts that are never looked
into; a protocol without ports leaves the port texts empty.
-/

set_option autoImplicit false

namespace Flowmeter

/-- Who talks to whom in one direction. -/
structure Endpoints where
  source : String
  destination : String
  sourcePort : String
  destinationPort : String
deriving DecidableEq, Repr

/-- What has passed in one direction. Without accounting in the kernel this is nought, which
    cannot be told from a connection without traffic. -/
structure Traffic where
  packets : Nat
  bytes : Nat
deriving DecidableEq, Repr

/-- One tracked connection. -/
structure Flow where
  network : String
  transport : String
  original : Endpoints
  reply : Endpoints
  sent : Traffic
  received : Traffic
deriving DecidableEq, Repr

/-- Whether the original direction names a port. -/
def Flow.hasPorts (flow : Flow) : Bool :=
  !flow.original.destinationPort.isEmpty || !flow.original.sourcePort.isEmpty

end Flowmeter
