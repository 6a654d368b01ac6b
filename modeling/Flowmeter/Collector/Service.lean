import Flowmeter.Collector.Timing
import Flowmeter.Collector.Turns
import Flowmeter.Metrics.Instruments
import Flowmeter.Notice

/-!
# The collector as a machine

A cycle reads the table, takes its snapshot, and records it. Cycles are asked for by clients
and by loops. They run in any order and at any speed, each of them stopping only where it
waits: for the lock, and for its reading. What a cycle does from one such place to the next is
one step, and nothing comes between its parts; what comes between two steps is anybody's
choice, so every order in which cycles, readings, time limits and cancellations can come is
a list of events.

What a step does besides changing the state is a list of effects. The accounts change in one
place, `publish`, with the snapshot of the text that the reading of the call in question has
yielded.
-/

set_option autoImplicit false

namespace Flowmeter.Collector

/-- What a step does besides changing the state. -/
inductive Effect where
  | notice (n : Notice)
  /-- A call begins. -/
  | called (call : Call)
  /-- A call takes the lock. -/
  | entered (call : Call)
  | readingBegun (call : Call) (reading : Nat)
  | readingFinished (reading : Nat) (outcome : Except Files.Fault String)
  /-- A call lets the lock go. -/
  | left (call : Call)
  | returned (call : Call) (result : Result)
  | cancelled (call : Call)

/-- A collector. -/
structure Service where
  table : String
  timing : Timing
  accounts : Accounts
  instruments : Instruments
  cycles : Nat
  failures : Nat
  lastSuccess : Option Nat
  lastError : Option String
  turns : Turns
  /-- The loops that are alive. -/
  loops : List Nat
  /-- The loop that was started last, unless a stop has returned since. -/
  current : Option Nat
  /-- How many stops have not returned. -/
  stopping : Nat
  loopsBegun : Nat

namespace Service

def new (table : String) (timing : Timing) : Service where
  table := table
  timing := timing
  accounts := Accounts.empty
  instruments := Instruments.empty
  cycles := 0
  failures := 0
  lastSuccess := none
  lastError := none
  turns := Turns.new
  loops := []
  current := none
  stopping := 0
  loopsBegun := 0

def readingsBegun (s : Service) : Nat := s.turns.readingsBegun

/-! ## What a cycle comes to -/

def fail (s : Service) (failure : Failure) : Service × List Notice × Result :=
  ({ s with
      failures := s.failures + 1
      lastError := some failure.summary
      instruments := s.instruments.countCycle failure.reason },
   [.cycleAborted failure], .failed)

/-- Records a snapshot and counts the cycle. -/
def publish (s : Service) (survey : Survey) (now milliseconds : Nat) :
    Service × List Notice × Result :=
  -- everything is told by the ledger as it was before
  let change := s.accounts.ledger.change survey.snapshot
  let keys := survey.snapshot.size
  let newKeys := change.newKeys.length
  let active := change.rises.size
  ({ s with
      accounts := s.accounts.record survey.snapshot
      cycles := s.cycles + 1
      lastSuccess := some now
      lastError := none
      instruments := s.instruments.countSuccess now keys },
   [.aggregated survey.accepted keys, .reconciled keys newKeys active,
    .published keys newKeys active milliseconds], .published)

/-- What a cycle makes of the survey of a text. -/
def digestSurvey (s : Service) (survey : Survey) (now milliseconds : Nat) :
    Service × List Notice × Result :=
  -- lines passed over are told of whether or not any line is left
  let skipped : List Notice :=
    if survey.rejected = 0 then [] else [.linesSkipped survey.rejected]
  let (s, notices, result) :=
    if survey.accepted = 0 then s.fail (.noFlows SnapshotFault.noFlows.message)
    else s.publish survey now milliseconds
  (s, skipped ++ notices, result)

/-- What a cycle makes of what its reading has yielded. -/
def digest (s : Service) (outcome : Except Files.Fault String) (now milliseconds : Nat) :
    Service × List Notice × Result :=
  match outcome with
  | .error fault =>
      match Failure.ofFault? s.table s.timing.readTimeout fault with
      | some failure => s.fail failure
      -- the path has never come before the system, so nothing has been refused
      | none => (s, [], .raised (.badPath fault))
  | .ok text =>
      match Survey.ofText text with
      -- a counter that is not read is no failure either, and nothing is counted
      | .error fault => (s, [], .raised (.oversizedCounter fault))
      | .ok survey => s.digestSurvey survey now milliseconds

/-! ## What a call does between two waits -/

/-- What a caller says to a result. A loop goes on after a cycle that was broken off. -/
def remarks : Caller → Result → List Notice
  | .loop _, .raised _ => [.cycleRaised]
  | _, _ => []

/-- A call lets the lock go and returns what its cycle has come to. -/
def conclude (call : Call) : Service × List Notice × Result → Service × List Effect
  | (s, notices, result) =>
      ({ s with turns := s.turns.release call },
       notices.map .notice ++ [.left call, .returned call result] ++
         (remarks call.caller result).map .notice)

/-- A call that has taken the lock begins a reading, unless one is still in progress. -/
def proceed (s : Service) (call : Call) : Service × List Effect :=
  if s.turns.isReading then conclude call (s.fail (.stillReading s.table))
  else
    ({ s with turns := s.turns.beginReading call },
     [.readingBegun call s.turns.readingsBegun])

/-- A new call takes the lock if it is free, and otherwise waits for it. -/
def ask (s : Service) (caller : Caller) : Service × List Effect :=
  let call := s.turns.nextCall caller
  if s.turns.lock.isFree then
    let (s, effects) := { s with turns := s.turns.letIn call }.proceed call
    (s, .called call :: .entered call :: effects)
  else ({ s with turns := s.turns.queue call }, [.called call])

/-- A call that has been woken takes the lock. -/
def enter (s : Service) (waiter : Waiter) : Service × List Effect :=
  if waiter.woken then
    let (s, effects) := { s with turns := s.turns.hold waiter.call }.proceed waiter.call
    (s, .entered waiter.call :: effects)
  else (s, [])

/-- A loop whose call is cancelled ends. -/
def endLoop (s : Service) : Caller → Service
  | .client _ => s
  | .loop loop => { s with loops := s.loops.erase loop }

/-- Cancels a call where it waits. -/
def breakOff (s : Service) (number : Nat) : Service × List Effect :=
  match s.turns.holder? number, s.turns.waiter? number with
  -- what it has begun to read is read to the end, for nobody
  | some holder, _ =>
      ({ s with turns := s.turns.release holder.call }.endLoop holder.call.caller,
       [.left holder.call, .cancelled holder.call])
  | none, some waiter =>
      ({ s with turns := s.turns.abandon waiter.call }.endLoop waiter.call.caller,
       [.cancelled waiter.call])
  | none, none => (s, [])

/-- The call of a loop that has not ended. -/
def callOf? (s : Service) (loop : Nat) : Option Call :=
  s.turns.active.find? (fun call => call.caller = .loop loop)

/-- Cancels a loop where it waits, or where it sleeps. -/
def cancelLoop (s : Service) (loop : Nat) : Service × List Effect :=
  match s.callOf? loop with
  | some call => s.breakOff call.number
  | none => (s.endLoop (.loop loop), [])

/-! ## Events -/

/-- What can happen to a collector. Calls, readings and loops are named by their numbers; what
    cannot happen in a state leaves it as it is. -/
inductive Event where
  /-- A client asks for a cycle. -/
  | call (client : Nat)
  /-- A call that waits for the lock and has been woken takes it. -/
  | enter (call : Nat)
  /-- A reading finishes. -/
  | finish (reading : Nat) (outcome : Except Files.Fault String)
  /-- A call whose reading has finished goes on, at a time and after some milliseconds. -/
  | conclude (call : Nat) (now milliseconds : Nat)
  /-- A call has waited long enough for its reading. Its time may be up when the reading has
      finished but the call has not gone on. -/
  | expire (call : Nat)
  /-- A call is cancelled where it waits. -/
  | cancel (call : Nat)
  /-- A loop is started. -/
  | start
  /-- A loop that has just been started, or has slept, asks for a cycle. -/
  | wake (loop : Nat)
  /-- A stop cancels the loop that was started last. -/
  | stop
  /-- A stop returns. -/
  | stopped

def step (s : Service) : Event → Service × List Effect
  | .call client => s.ask (.client client)
  | .enter number =>
      match s.turns.waiter? number with
      | some waiter => s.enter waiter
      | none => (s, [])
  | .finish reading outcome =>
      if reading ∈ s.turns.unfinished then
        ({ s with turns := s.turns.finish reading outcome },
         [.readingFinished reading outcome])
      else (s, [])
  | .conclude number now milliseconds =>
      match s.turns.holder? number with
      | some ⟨call, _, some outcome⟩ => conclude call (s.digest outcome now milliseconds)
      | _ => (s, [])
  -- whether or not the reading has finished
  | .expire number =>
      match s.turns.holder? number with
      | some holder =>
          conclude holder.call (s.fail (.timedOut s.table s.timing.readTimeout))
      | none => (s, [])
  | .cancel number => s.breakOff number
  | .start =>
      ({ s with
          loops := s.loops ++ [s.loopsBegun]
          current := some s.loopsBegun
          loopsBegun := s.loopsBegun + 1 }, [])
  | .wake loop =>
      -- a loop makes one call at a time
      if loop ∈ s.loops ∧ s.callOf? loop = none then s.ask (.loop loop) else (s, [])
  | .stop =>
      match s.current with
      -- nothing to stop, so this stop returns at once
      | none => (s, [])
      | some loop => { s with stopping := s.stopping + 1 }.cancelLoop loop
  | .stopped =>
      if s.stopping = 0 then (s, [])
      -- a loop that was started in the meantime is forgotten as well
      else ({ s with current := none, stopping := s.stopping - 1 }, [])

def run (s : Service) : List Event → Service × List Effect
  | [] => (s, [])
  | event :: rest =>
      let (s, effects) := s.step event
      let (s, later) := s.run rest
      (s, effects ++ later)

/-! ## Status -/

structure Status where
  running : Bool
  interval : Float
  cycles : Nat
  failures : Nat
  lastSuccess : Option Nat
  lastError : Option String
  trackedKeys : Nat
  seenKeys : Nat

/-- Whether the loop that was started last is alive. -/
def isRunning (s : Service) : Bool :=
  s.current.any (fun loop => s.loops.contains loop)

def status (s : Service) : Status where
  running := s.isRunning
  interval := s.timing.interval
  cycles := s.cycles
  failures := s.failures
  lastSuccess := s.lastSuccess
  lastError := s.lastError
  trackedKeys := s.accounts.ledger.tracked
  seenKeys := s.accounts.ledger.seen.length

/-- The families that a scraper of the collector is shown. -/
def families (s : Service) (withInstruments : Bool) : List Family :=
  s.accounts.published.families "conntrack" ++
    (if withInstruments then s.instruments.families else [])

end Service

end Flowmeter.Collector
