import Flowmeter.Log.Layout
import Flowmeter.Log.Template

/-!
# Drafts of records

A record is handed in as a draft: its time is a number that may have no stamp, and its message
a template with values that may not fit. The text layout writes the message before the time,
the others the time before the message, so of two faults the layout decides which is reported.
-/

set_option autoImplicit false

namespace Flowmeter.Log

open Flowmeter.Config Flowmeter.Decimal

/-- A record before it is written. Its time is in seconds since 1970. -/
structure Draft where
  created : Value
  level : Int
  source : String
  template : String
  values : List Value
  trouble : Trouble

/-- Why a draft is no record. -/
inductive DraftFault where
  | template (fault : TemplateFault)
  | stamp (fault : StampFault)
deriving DecidableEq, Repr

def DraftFault.message : DraftFault → String
  | .template fault => fault.message
  | .stamp fault => fault.message

namespace Draft

/-- The whole seconds of a number. What is no number counts as the beginning of 1970. -/
def secondOf : Value → Except StampFault Int
  | .scalar (.int n) => checkSecond n
  | .scalar (.float x) =>
      match DoubleView.of x with
      | .nan => .error .notANumber
      | .infinite _ => .error .beyondCount
      | .finite negative m => checkSecond (Int.fdiv (signed negative m.units) Magnitude.unit)
  | _ => .ok 0

/-- The record of a draft in a layout. -/
def record (layout : Layout) (d : Draft) : Except DraftFault Record := do
  let message := (fillTemplate d.template d.values).mapError DraftFault.template
  if layout = .text then let _ ← message
  let second ← (secondOf d.created).mapError .stamp
  return ⟨second, d.level, d.source, ← message, d.trouble⟩

/-- The line of a draft in a layout. -/
def line (layout : Layout) (d : Draft) : Except DraftFault String :=
  (d.record layout).map layout.line

end Draft

end Flowmeter.Log
