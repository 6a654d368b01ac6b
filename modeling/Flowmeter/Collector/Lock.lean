/-!
# The lock that cycles take

A lock that is handed on in the order in which it was asked for. To let it go does not hand it
over: it only wakes the first of those who wait, who takes it as soon as it runs. Until then
the lock is free, but not for others, for whoever finds someone waiting waits too.
-/

set_option autoImplicit false

namespace Flowmeter.Collector

/-- Who asks for a cycle. -/
inductive Caller where
  | client (id : Nat)
  | loop (id : Nat)
deriving DecidableEq, Repr

/-- A call for a cycle: the how-manieth it is, and who asks. -/
structure Call where
  number : Nat
  caller : Caller
deriving DecidableEq, Repr

/-- A call that waits for the lock, and whether it has been woken. -/
structure Waiter where
  call : Call
  woken : Bool
deriving DecidableEq, Repr

/-- A lock, and who waits for it, first come first. -/
structure Lock where
  held : Bool
  waiters : List Waiter
deriving DecidableEq, Repr

namespace Lock

/-- A lock that nobody holds or waits for. -/
def free : Lock := ⟨false, []⟩

/-- Whether the lock can be taken without waiting. -/
def isFree (lock : Lock) : Bool :=
  !lock.held && lock.waiters.isEmpty

/-- Wakes the first of those who wait. -/
def wakeFirst : List Waiter → List Waiter
  | [] => []
  | w :: rest => { w with woken := true } :: rest

/-- A call begins to wait. -/
def join (lock : Lock) (call : Call) : Lock :=
  { lock with waiters := lock.waiters ++ [⟨call, false⟩] }

/-- Those who wait besides a call. -/
def others (lock : Lock) (call : Call) : List Waiter :=
  lock.waiters.filter (fun w => w.call ≠ call)

/-- A call takes the lock. Nothing is asked here: whether the lock may be taken is settled
    before, when the call finds it free or is woken. -/
def take (lock : Lock) (call : Call) : Lock :=
  ⟨true, lock.others call⟩

/-- The lock is let go. -/
def release (lock : Lock) : Lock :=
  ⟨false, wakeFirst lock.waiters⟩

/-- A call waits no longer. If it was its turn, the next is woken in its place. -/
def abandon (lock : Lock) (call : Call) : Lock :=
  { lock with
    waiters := if lock.held then lock.others call else wakeFirst (lock.others call) }

end Lock

end Flowmeter.Collector
