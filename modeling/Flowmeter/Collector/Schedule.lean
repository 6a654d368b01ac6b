import Flowmeter.Collector.TimeScale
import Flowmeter.Notice

/-!
# The grid of cycles

Cycles run on a grid: the first at once, each later one a whole number of intervals after the
one before. A cycle that ends by the next point of the grid is followed by it, also if it ends
just then. One that ends after it has overrun the interval: the points up to its end are skipped
and counted, and the collector sleeps to the first one ahead. How a cycle ends plays no part in
when the next one begins.
-/

set_option autoImplicit false

namespace Flowmeter.Collector

variable {τ : Type} [TimeScale τ]

/-- What follows a cycle: the point of the grid that is slept to, how long the sleep is asked
    to be, and how many points are skipped if the cycle overran. -/
structure Turn (τ : Type) where
  next : τ
  sleep : τ
  skipped : Option Int

/-- What follows a cycle that was due at `due` and has ended at `now`. -/
def turn (interval due now : τ) : Except ClockFault (Turn τ) := do
  let next ← TimeScale.add due interval
  if TimeScale.before next now then
    let skipped := (← TimeScale.wholeIntervals (← TimeScale.sub now next) interval) + 1
    let next ← TimeScale.add next (← TimeScale.intervals skipped interval)
    return ⟨next, ← TimeScale.sub next now, some skipped⟩
  else return ⟨next, ← TimeScale.sub next now, none⟩

/-- A sleep never goes back in time. -/
def sleepUntil (now sleep : τ) : Except ClockFault τ :=
  if TimeScale.before TimeScale.zero sleep then TimeScale.add now sleep else .ok now

/-- A cycle as its loop meets it: how long it takes, and how it ends. -/
structure Lap (τ : Type) where
  duration : τ
  result : Result

/-- A cycle as the clock sees it: when it began, how it ended, and what followed. -/
structure Beat (τ : Type) where
  began : τ
  result : Result
  turn : Turn τ

/-- What a loop says of an interval that has been overrun; the interval is given as it is shown. -/
def Turn.notices {τ : Type} (turn : Turn τ) (interval : Float) : List Notice :=
  match turn.skipped with
  | some skipped => [.overran interval skipped]
  | none => []

/-- What a loop says of a cycle that was broken off, and of its turn. -/
def Beat.notices {τ : Type} (beat : Beat τ) (interval : Float) : List Notice :=
  (match beat.result with
    | .raised _ => [.cycleRaised]
    | _ => []) ++ beat.turn.notices interval

/-- The cycles of a collector whose first cycle is due at `due` and begins at `now`, up to the
    first that cannot be followed by another. -/
def beats (interval : τ) : τ → τ → List (Lap τ) → Except ClockFault (List (Beat τ))
  | _, _, [] => .ok []
  | due, now, lap :: rest => do
      let ended ← TimeScale.add now lap.duration
      let following ← turn interval due ended
      let woken ← sleepUntil ended following.sleep
      let later ← beats interval following.next woken rest
      return ⟨now, lap.result, following⟩ :: later

end Flowmeter.Collector
