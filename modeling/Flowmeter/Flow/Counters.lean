import Flowmeter.Flow.Entry

/-!
# Counters

Four counters are kept per key: packets and bytes in each direction. They add counter by
counter, and `rise` is what each has grown by: a counter that fell or stayed contributes
nothing, since a fall means that the kernel began to count anew.
-/

set_option autoImplicit false

namespace Flowmeter

/-- The counters that are kept. -/
inductive Counter where
  | sentPackets
  | sentBytes
  | receivedPackets
  | receivedBytes
deriving DecidableEq, Repr

/-- All counters, in the order in which they are shown. -/
def Counter.all : List Counter :=
  [.sentPackets, .sentBytes, .receivedPackets, .receivedBytes]

/-- A value of each counter. -/
structure Counters where
  sentPackets : Int
  sentBytes : Int
  receivedPackets : Int
  receivedBytes : Int
deriving DecidableEq, Repr

namespace Counters

/-- The value of a counter. -/
def get (c : Counters) : Counter → Int
  | .sentPackets => c.sentPackets
  | .sentBytes => c.sentBytes
  | .receivedPackets => c.receivedPackets
  | .receivedBytes => c.receivedBytes

def zero : Counters := ⟨0, 0, 0, 0⟩

instance : Inhabited Counters := ⟨zero⟩

/-- The sum, counter by counter. -/
def add (a b : Counters) : Counters where
  sentPackets := a.sentPackets + b.sentPackets
  sentBytes := a.sentBytes + b.sentBytes
  receivedPackets := a.receivedPackets + b.receivedPackets
  receivedBytes := a.receivedBytes + b.receivedBytes

instance : Add Counters := ⟨add⟩

/-- What each counter has grown by since `earlier`; nought where it has not. -/
def rise (now earlier : Counters) : Counters where
  sentPackets := max 0 (now.sentPackets - earlier.sentPackets)
  sentBytes := max 0 (now.sentBytes - earlier.sentBytes)
  receivedPackets := max 0 (now.receivedPackets - earlier.receivedPackets)
  receivedBytes := max 0 (now.receivedBytes - earlier.receivedBytes)

/-- Whether all counters are at nought. -/
def isZero (c : Counters) : Bool :=
  c.sentPackets == 0 && c.sentBytes == 0 && c.receivedPackets == 0 && c.receivedBytes == 0

@[simp] theorem get_zero (c : Counter) : zero.get c = 0 := by
  cases c <;> rfl

@[simp] theorem get_add (a b : Counters) (c : Counter) : (a + b).get c = a.get c + b.get c := by
  cases c <;> rfl

@[simp] theorem get_rise (a b : Counters) (c : Counter) :
    (a.rise b).get c = max 0 (a.get c - b.get c) := by
  cases c <;> rfl

end Counters

/-- The counters of one flow. -/
def Flow.counters (flow : Flow) : Counters where
  sentPackets := flow.sent.packets
  sentBytes := flow.sent.bytes
  receivedPackets := flow.received.packets
  receivedBytes := flow.received.bytes

end Flowmeter
