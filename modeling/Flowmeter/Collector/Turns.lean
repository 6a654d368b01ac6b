import Flowmeter.Collector.Lock
import Flowmeter.Files.Fault

/-!
# Taking turns

A call that has the lock begins a reading and waits for it. A reading cannot be broken off: a
call may stop waiting for it, because its time is up or because it is no longer wanted, but the
reading goes on and finishes some time later, when perhaps another call has the lock. What it
yields then reaches only the call that began it, and only if that call still waits.
-/

set_option autoImplicit false

namespace Flowmeter.Collector

/-- A call that has the lock: the reading it has begun, and what that reading has yielded. -/
structure Holder where
  call : Call
  reading : Option Nat
  outcome : Option (Except Files.Fault String)

/-- Who has the lock and who waits for it, and which readings have begun and not finished.
    Readings and calls are numbered. -/
structure Turns where
  lock : Lock
  holders : List Holder
  unfinished : List Nat
  /-- The reading that was begun last, finished or not. -/
  lastReading : Option Nat
  readingsBegun : Nat
  callsBegun : Nat

namespace Turns

def new : Turns where
  lock := Lock.free
  holders := []
  unfinished := []
  lastReading := none
  readingsBegun := 0
  callsBegun := 0

/-- Whether the reading that was begun last is still in progress. -/
def isReading (t : Turns) : Bool :=
  t.lastReading.any t.unfinished.contains

/-- The next call, if that caller makes it. -/
def nextCall (t : Turns) (caller : Caller) : Call :=
  ⟨t.callsBegun, caller⟩

/-- The calls that have the lock or wait for it. -/
def active (t : Turns) : List Call :=
  t.holders.map (·.call) ++ t.lock.waiters.map (·.call)

def holder? (t : Turns) (number : Nat) : Option Holder :=
  t.holders.find? (fun h => h.call.number = number)

def waiter? (t : Turns) (number : Nat) : Option Waiter :=
  t.lock.waiters.find? (fun w => w.call.number = number)

/-! ## What calls do -/

def queue (t : Turns) (call : Call) : Turns :=
  { t with lock := t.lock.join call, callsBegun := t.callsBegun + 1 }

/-- A call takes the lock. -/
def hold (t : Turns) (call : Call) : Turns :=
  { t with lock := t.lock.take call, holders := t.holders ++ [⟨call, none, none⟩] }

/-- A new call takes the lock. -/
def letIn (t : Turns) (call : Call) : Turns :=
  { t.hold call with callsBegun := t.callsBegun + 1 }

/-- A call that has the lock begins a reading. -/
def beginReading (t : Turns) (call : Call) : Turns :=
  { t with
    holders := t.holders.map fun h =>
      if h.call = call then { h with reading := some t.readingsBegun } else h
    unfinished := t.unfinished ++ [t.readingsBegun]
    lastReading := some t.readingsBegun
    readingsBegun := t.readingsBegun + 1 }

/-- A reading finishes, and whoever waits for it has what it yields. -/
def finish (t : Turns) (reading : Nat) (outcome : Except Files.Fault String) : Turns :=
  { t with
    -- one call has begun it, and if that call is gone nobody is told
    holders := t.holders.map fun h =>
      if h.reading = some reading then { h with outcome := some outcome } else h
    unfinished := t.unfinished.filter (fun r => r ≠ reading) }

/-- A call lets the lock go. -/
def release (t : Turns) (call : Call) : Turns :=
  { t with lock := t.lock.release, holders := t.holders.filter (fun h => h.call ≠ call) }

def abandon (t : Turns) (call : Call) : Turns :=
  { t with lock := t.lock.abandon call }

end Turns

end Flowmeter.Collector
