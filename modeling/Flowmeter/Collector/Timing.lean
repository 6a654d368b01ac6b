import Flowmeter.Config.Mismatch

/-!
# Interval and time limit

A collector runs at an interval and gives up a reading after a time limit. Both are settings,
so they may be of any kind; they are refused unless they compare as more than nought, and the
interval is judged first. What is no number at all does not compare as at most nought and is
let through.
-/

set_option autoImplicit false

namespace Flowmeter.Collector

open Flowmeter.Config Flowmeter.Decimal

/-- Seconds between cycles, and seconds that a reading may take. -/
structure Timing where
  interval : Float
  readTimeout : Float

/-- Why two settings are no timing. -/
inductive TimingFault where
  | mismatch (m : Mismatch)
  /-- A setting is not more than nought; `shown` is how a message shows it. -/
  | notPositive (name : String) (shown : String)
  /-- A setting is not more than nought and has too many digits to be shown. -/
  | unshowable
  /-- A setting is an integer that no double holds. -/
  | beyondDoubles
deriving DecidableEq, Repr

def TimingFault.message : TimingFault → String
  | .mismatch m => m.message
  | .notPositive name shown => name ++ " must be positive, got " ++ shown
  | .unshowable => tooLargeToWriteMessage
  | .beyondDoubles => "int too large to convert to float"

/-- Whether a value is at most nought. -/
def atMostZero : Value → Except Mismatch Bool
  | .scalar (.bool b) => .ok (!b)
  | .scalar (.int n) => .ok (n ≤ 0)
  | .scalar (.float x) => .ok (x ≤ 0)
  | v => .error (.notComparable "<=" v.kind .int)

/-- The double of a number; integers may be too large for one. -/
def toDouble? : Value → Option Float
  | .scalar (.bool b) => some (if b then 1 else 0)
  | .scalar (.int n) => doubleOfInt? n
  | .scalar (.float x) => some x
  | _ => none

/-- Refuses a setting that is at most nought. -/
def requirePositive (name : String) (v : Value) : Except TimingFault Unit :=
  match atMostZero v with
  | .error m => .error (.mismatch m)
  | .ok false => .ok ()
  | .ok true =>
      match v.show with
      | .ok shown => .error (.notPositive name shown)
      | .error _ => .error .unshowable

/-- The double of a setting that is known to be a number. -/
def requireDouble (v : Value) : Except TimingFault Float :=
  match toDouble? v with
  | some x => .ok x
  | none => .error .beyondDoubles

/-- The timing of two settings. -/
def Timing.ofValues (interval readTimeout : Value) : Except TimingFault Timing := do
  requirePositive "interval" interval
  requirePositive "read_timeout" readTimeout
  return ⟨← requireDouble interval, ← requireDouble readTimeout⟩

end Flowmeter.Collector
