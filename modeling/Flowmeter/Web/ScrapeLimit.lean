import Flowmeter.Config.Mismatch

/-!
# The limit on scrapes

At most so many scrapes are answered at a time. A scrape takes a place when it arrives and
gives it back when it ends, however it ends; one that finds no place is turned away and
changes nothing. A limit of nought is no limit, and one below nought turns every scrape away.

The limit is a setting of any kind. One that does not compare with a number of scrapes is found
out by the first scrape that asks for a place.
-/

set_option autoImplicit false

namespace Flowmeter.Web

open Flowmeter.Config Flowmeter.Decimal

/-- How many scrapes are too many. -/
inductive Bound where
  /-- No number is. -/
  | never
  /-- This number is, and every greater one. -/
  | atLeast (n : Int)
  /-- Every number is. -/
  | always
deriving DecidableEq, Repr

namespace Bound

/-- Whether a number of scrapes is too many. -/
def isReached (inFlight : Int) : Bound → Bool
  | .never => false
  | .atLeast n => n ≤ inFlight
  | .always => true

/-- The bound of a whole number. -/
def ofInt (n : Int) : Bound :=
  if n = 0 then .never else .atLeast n

/-- The bound of a double: the next whole number, except that only nought itself is none. -/
def ofDouble (x : Float) : Bound :=
  match DoubleView.of x with
  | .nan => .never
  | .infinite negative => if negative then .always else .never
  | .finite negative magnitude =>
      if magnitude.units = 0 then .never
      -- rounded up in both cases, and below nought that is towards it
      else if negative then .atLeast (-(magnitude.floor : Int))
      else .atLeast ((magnitude.units + Magnitude.unit - 1) / Magnitude.unit)

/-- The bound that a setting stands for. Whatever counts as not given is none; what else is no
    number cannot be compared with a number of scrapes. -/
def ofValue : Value → Except Mismatch Bound
  | .scalar (.bool b) => .ok (if b then .atLeast 1 else .never)
  | .scalar (.int n) => .ok (ofInt n)
  | .scalar (.float x) => .ok (ofDouble x)
  | v => if v.isGiven then .error (.notComparable ">=" .int v.kind) else .ok .never

end Bound

/-- The bound, if the setting is one, and how many places are taken. -/
structure ScrapeLimit where
  bound : Except Mismatch Bound
  inFlight : Int

namespace ScrapeLimit

/-- A limit with all places free. -/
def new (setting : Value) : ScrapeLimit := ⟨Bound.ofValue setting, 0⟩

/-- Takes a place, if one is free. -/
def acquire (l : ScrapeLimit) : Except Mismatch (Bool × ScrapeLimit) := do
  if (← l.bound).isReached l.inFlight then return (false, l)
  else return (true, { l with inFlight := l.inFlight + 1 })

def release (l : ScrapeLimit) : ScrapeLimit :=
  { l with inFlight := l.inFlight - 1 }

end ScrapeLimit

end Flowmeter.Web
