import Flowmeter.Collector.Schedule
import Flowmeter.Collector.Site

/-!
# A site with a clock

Time passes at a site only while a call waits for a reading that stalls, and then until its time
is up; all else takes none. A loop whose cycle has ended sleeps to its next point of the grid. If
that point comes while time passes, the loop asks for a cycle behind the call that waits.
-/

set_option autoImplicit false

namespace Flowmeter.Collector

/-- A loop between two cycles: the point of the grid at which the next is due, and when the loop
    wakes for it. -/
structure Sleeper where
  loop : Nat
  due : Moment
  wakes : Moment

/-- A site, the time, and the loops that sleep. -/
structure ClockedSite where
  site : Site
  now : Moment
  sleepers : List Sleeper

/-- Requests that come together, before any of the calls that they make goes on. -/
def Site.ask (site : Site) : List Site.Request → Site × List Effect
  | [] => (site, [])
  | request :: rest =>
      let (site, effects) := site.follow (request.events site.service.loopsBegun)
      let (site, later) := site.ask rest
      (site, effects ++ later)

/-- What a loop does whose cycle has ended: it sleeps again, and says so if it has overrun. -/
def Sleeper.again? (s : Sleeper) (interval : Float) (now : Moment) :
    Option (Sleeper × List Notice) := do
  let following ← (turn (.double interval) s.due now).toOption
  let wakes ← (sleepUntil now following.sleep).toOption
  return (⟨s.loop, following.next, wakes⟩, following.notices interval)

namespace ClockedSite

def new (timing : Timing) : ClockedSite := ⟨Site.new timing, .whole 0, []⟩

/-- When the time of a call is up that waits for a reading that stalls, if one does. -/
def deadline? (c : ClockedSite) : Option Moment :=
  if c.site.stalled && c.site.service.turns.holders.any (fun h => h.outcome.isNone) then
    (TimeScale.add c.now (.double c.site.service.timing.readTimeout)).toOption
  else none

/-- Time passes if a call waits: the loops whose sleep is over by then ask for cycles, the
    earliest first. -/
def pass (c : ClockedSite) : ClockedSite × List Sleeper × List Effect :=
  match c.deadline? with
  | none => (c, [], [])
  | some deadline =>
      let (woken, asleep) := c.sleepers.partition (fun s => TimeScale.before s.wakes deadline)
      let woken := woken.mergeSort (fun a b => !TimeScale.before b.wakes a.wakes)
      let (site, effects) := c.site.follow (woken.map fun s => .wake s.loop)
      (⟨site, deadline, asleep⟩, woken, effects)

/-- Loops whose cycles have ended go to sleep, those that are alive. -/
def sleep (c : ClockedSite) (loops : List Sleeper) : ClockedSite × List Effect :=
  let alive := loops.filter fun s => s.loop ∈ c.site.service.loops
  let next := alive.filterMap fun s => s.again? c.site.service.timing.interval c.now
  ({ c with sleepers := c.sleepers ++ next.map Prod.fst },
    (next.flatMap Prod.snd).map .notice)

/-- Requests that come together, and then whatever calls they have made. -/
def perform (c : ClockedSite) (requests : List Site.Request) : ClockedSite × List Effect :=
  let begun := c.site.service.loopsBegun
  let (site, asked) := c.site.ask requests
  let started := (List.range' begun (site.service.loopsBegun - begun)).map fun loop =>
    Sleeper.mk loop c.now c.now
  let (c, woken, called) := { c with site := site }.pass
  let (site, done) := c.site.settleAll
  let (c, slept) := { c with site := site }.sleep (started ++ woken)
  (c, asked ++ called ++ done ++ slept)

/-- A number of clients ask for cycles at the same time. -/
def run (c : ClockedSite) (clients : Nat) : ClockedSite × List Effect :=
  c.perform ((List.range clients).map .call)

end ClockedSite

end Flowmeter.Collector
