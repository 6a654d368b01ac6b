import Flowmeter.Decimal.Binary64
import Flowmeter.Decimal.Numeral

/-!
# Scales of time

The rule by which cycles follow each other is stated for any scale of time. There are two:
rationals, which are exact, and the moments of a clock, which are doubles once anything but
whole numbers has gone into them, and then every operation rounds.
-/

set_option autoImplicit false

namespace Flowmeter.Collector

open Flowmeter.Decimal

/-- Why a clock gives no time. -/
inductive ClockFault where
  /-- A number of intervals that is no number. -/
  | notANumber
  /-- A number of intervals without end. -/
  | infinite
  /-- A whole number that no double holds. -/
  | beyondDoubles
deriving DecidableEq, Repr

def ClockFault.message : ClockFault → String
  | .notANumber => "cannot convert float NaN to integer"
  | .infinite => "cannot convert float infinity to integer"
  | .beyondDoubles => "int too large to convert to float"

/-- A scale on which times are added, compared and counted in intervals. -/
class TimeScale (τ : Type) where
  zero : τ
  add : τ → τ → Except ClockFault τ
  sub : τ → τ → Except ClockFault τ
  /-- Whether the first time is before the second. -/
  before : τ → τ → Bool
  /-- How many whole intervals, the second argument, fit into a time. -/
  wholeIntervals : τ → τ → Except ClockFault Int
  /-- A time as long as a number of intervals. -/
  intervals : Int → τ → Except ClockFault τ

/-! ## Rationals -/

instance : TimeScale Rat where
  zero := 0
  add a b := .ok (a + b)
  sub a b := .ok (a - b)
  before a b := a < b
  wholeIntervals x w := .ok (x / w).floor
  intervals n w := .ok (n * w)

/-! ## Whole intervals in doubles -/

/-- The remainder of two positive doubles, which is exact. -/
def remainder (x w : Float) : Float :=
  match DoubleView.of x, DoubleView.of w with
  | .finite _ a, .finite _ b =>
      if b.units = 0 then 0 / 0
      else doubleOfRatio false (a.units % b.units) Magnitude.unit
  | .finite _ _, .infinite _ => x
  | _, _ => 0 / 0

/-- How often one positive double goes into another, in whole numbers: the remainder is taken
    off first, and a quotient that rounding has put more than a half above its floor counts
    as the next whole number. -/
def floorQuotient (x w : Float) : Float :=
  let q := (x - remainder x w) / w
  if q == 0 then 0
  else
    let floor := q.floor
    if 0.5 < q - floor then floor + 1 else floor

/-- The integer that a double without fraction is. -/
def integerOf (x : Float) : Except ClockFault Int :=
  match DoubleView.of x with
  | .nan => .error .notANumber
  | .infinite _ => .error .infinite
  | .finite negative magnitude => .ok (signed negative magnitude.floor)

/-! ## Moments of a clock -/

/-- A time that a clock shows. -/
inductive Moment where
  | whole (n : Int)
  | double (x : Float)

namespace Moment

/-- The double of a moment. -/
def toDouble : Moment → Except ClockFault Float
  | .double x => .ok x
  | .whole n =>
      match doubleOfInt? n with
      | some x => .ok x
      | none => .error .beyondDoubles

/-- Whole numbers put together exactly, and moments as doubles where one of them is. -/
def combine (exact : Int → Int → Int) (rounded : Float → Float → Float) :
    Moment → Moment → Except ClockFault Moment
  | .whole a, .whole b => .ok (.whole (exact a b))
  | a, b => do return .double (rounded (← a.toDouble) (← b.toDouble))

/-- How a double compares with a whole number, if it is a number. -/
def compareWhole (x : Float) (n : Int) : Option Ordering :=
  match DoubleView.of x with
  | .nan => none
  | .infinite negative => some (if negative then .lt else .gt)
  | .finite negative magnitude =>
      some (compare (signed negative magnitude.units) (n * Magnitude.unit))

/-- Whether the first moment is before the second, exactly. -/
def isBefore : Moment → Moment → Bool
  | .whole a, .whole b => a < b
  | .whole a, .double y => compareWhole y a == some .gt
  | .double x, .whole b => compareWhole x b == some .lt
  | .double x, .double y => x < y

end Moment

instance : TimeScale Moment where
  zero := .whole 0
  add := Moment.combine (· + ·) (· + ·)
  sub := Moment.combine (· - ·) (· - ·)
  before := Moment.isBefore
  wholeIntervals x w := do integerOf (floorQuotient (← x.toDouble) (← w.toDouble))
  intervals n w := do return .double ((← (Moment.whole n).toDouble) * (← w.toDouble))

end Flowmeter.Collector
