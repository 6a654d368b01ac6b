import Flowmeter.Collector.Service
import Flowmeter.Files.Tree
import Flowmeter.Procfs

/-!
# A collector and the files it reads

A site puts a collector beside the tree of files below its mount point and carries whatever is
asked of it to its end. It is one order of events among all that a collector can meet: a
reading finishes at once with what the tree holds and its call goes on, unless the files are
stalled. Then the call that waits for the reading runs into its time limit, and the reading
finishes when the stall is over.
-/

set_option autoImplicit false

namespace Flowmeter.Collector

open Flowmeter.Files

/-- A collector, the files it reads, and whether reading them stalls. -/
structure Site where
  service : Service
  files : Tree
  stalled : Bool

namespace Site

/-- The mount point of a site. -/
def procfs : Procfs := Procfs.ofText "proc"

/-- A collector that has not run yet, above a mount point with an empty directory for the
    table. -/
def new (timing : Timing) : Site where
  service := Service.new procfs.table.toText timing
  files := (Tree.directory []).set (.directory []) procfs.table.parent.names
  stalled := false

/-- What reading the table yields. -/
def reading (site : Site) : Except Fault String :=
  (site.files.read procfs.table).map textOf

/-- The site with something in the place of the table. -/
def putTable (site : Site) (table : Tree) : Site :=
  { site with files := site.files.set table procfs.table.names }

/-- The site without a table. -/
def removeTable (site : Site) : Site :=
  { site with files := site.files.remove procfs.table.names }

def follow (site : Site) (events : List Service.Event) : Site × List Effect :=
  let (service, effects) := site.service.run events
  ({ site with service := service }, effects)

/-- What happens next to a call that has the lock: its reading finishes, or its time is up. -/
def eventOf (site : Site) (holder : Holder) : Option Service.Event :=
  match holder.outcome, holder.reading with
  | some _, _ => some (.conclude holder.call.number 1 0)
  | none, some reading =>
      some (if site.stalled then .expire holder.call.number else .finish reading site.reading)
  | none, none => none

/-- What happens next to a call, if some call can go on. -/
def nextEvent? (site : Site) : Option Service.Event :=
  match site.service.turns.holders, site.service.turns.lock.waiters with
  | holder :: _, _ => site.eventOf holder
  | [], waiter :: _ => some (.enter waiter.call.number)
  | [], [] => none

/-- Lets calls go on, up to a number of events. -/
def settle : Nat → Site → Site × List Effect
  | 0, site => (site, [])
  | fuel + 1, site =>
      match site.nextEvent? with
      | none => (site, [])
      | some event =>
          let (site, effects) := site.follow [event]
          let (site, later) := settle fuel site
          (site, effects ++ later)

/-- Lets all calls go on to their ends: each of them takes the lock, has its reading finish,
    and concludes. -/
def settleAll (site : Site) : Site × List Effect :=
  settle (3 * site.service.turns.active.length) site

/-- What is asked of a site. -/
inductive Request where
  | call (client : Nat)
  | start
  | stop

/-- The events of a request. A loop asks for its first cycle at once. -/
def Request.events (request : Request) (loopsBegun : Nat) : List Service.Event :=
  match request with
  | .call client => [.call client]
  | .start => [.start, .wake loopsBegun]
  | .stop => [.stop, .stopped]

/-- Requests that come together, and then whatever calls they have made. -/
def perform (site : Site) : List Request → Site × List Effect
  | [] => site.settleAll
  | request :: rest =>
      let (site, effects) := site.follow (request.events site.service.loopsBegun)
      let (site, later) := site.perform rest
      (site, effects ++ later)

/-- A number of clients ask for cycles at the same time. -/
def run (site : Site) (clients : Nat) : Site × List Effect :=
  site.perform ((List.range clients).map .call)

def finishAll (site : Site) : Site × List Effect :=
  site.follow (site.service.turns.unfinished.map fun reading => .finish reading site.reading)

/-- A client asks for a cycle and no longer wants it once its reading has begun. -/
def cancelledRun (site : Site) : Site × List Effect :=
  let (site, effects) := site.follow [.call 0, .cancel site.service.turns.callsBegun]
  let (site, later) := if site.stalled then (site, []) else site.finishAll
  (site, effects ++ later)

/-- Reading the files stalls from now on. -/
def stall (site : Site) : Site :=
  { site with stalled := true }

/-- Reading the files no longer stalls, and unfinished readings finish. -/
def unstall (site : Site) : Site × List Effect :=
  { site with stalled := false }.finishAll

end Site

def noticesOf (effects : List Effect) : List Notice :=
  effects.filterMap fun
    | .notice n => some n
    | _ => none

/-- How the cycle of a client ended. -/
def resultOf (effects : List Effect) (client : Nat) : Option Result :=
  effects.findSome? fun
    | .returned call result => if call.caller = .client client then some result else none
    | _ => none

end Flowmeter.Collector
