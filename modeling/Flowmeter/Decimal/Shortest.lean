import Flowmeter.Decimal.Binary64

/-!
# The shortest decimal that reads back

The reals that round to a double form an interval around it. The shortest decimal inside is
found by trying grids of one, two, … digits: if a point of a grid lies in the interval, so
does one of the two neighbours of the double on that grid. Of two neighbours inside, the
nearer is taken. All comparisons are between natural numbers.
-/

set_option autoImplicit false

namespace Flowmeter.Decimal

/-- A decimal `0.d₁d₂… * 10 ^ point`, digits given as characters. -/
structure Digits where
  digits : List Char
  point : Int
deriving DecidableEq, Repr

/-- How many digits a natural number has; one for nought. -/
def decimalLength (n : Nat) : Nat :=
  (Nat.toDigits 10 n).length

namespace Magnitude

/-- The least `p` with the magnitude below `10 ^ p`, for a magnitude that is not nought. -/
def decimalPoint (x : Magnitude) : Int :=
  if unit ≤ x.units then (decimalLength (x.units / unit) : Int)
  else 1 - (decimalLength ((unit - 1) / x.units) : Int)

/-- The points of the grid of multiples of `10 ^ exponent` next to the magnitude that round to
    it, the nearer first. Ends of the interval round to it iff the significand is even. -/
def gridHit? (x : Magnitude) (exponent : Int) : Option Nat :=
  let step := 4 * unit * Nat.pow 10 exponent.toNat
  let widen := Nat.pow 10 (-exponent).toNat
  let middle := 4 * x.units * widen
  let gap := Nat.pow 2 x.scale * widen
  let low := middle - (if x.significand = leastFull ∧ 0 < x.scale then gap else 2 * gap)
  let high := middle + 2 * gap
  let even : Bool := x.significand % 2 = 0
  let inside (n : Nat) : Bool :=
    (low < n * step && n * step < high) || (even && (low = n * step || n * step = high))
  let below := middle / step
  let belowNearer : Bool :=
    2 * (middle % step) < step || (2 * (middle % step) = step && below % 2 = 0)
  match inside below, inside (below + 1) with
  | true, true => some (if belowNearer then below else below + 1)
  | true, false => some below
  | false, true => some (below + 1)
  | false, false => none

/-- The first grid with a hit, from the grid of `count` digits to that of `count + fuel`. -/
def firstHit (x : Magnitude) (point : Int) : Nat → Nat → Nat × Int
  | 0, count => (x.units / unit, point - count)
  | fuel + 1, count =>
      let exponent := point - count
      match x.gridHit? exponent with
      | some n => (n, exponent)
      | none => firstHit x point fuel (count + 1)

/-- The fewest digits that read back as the magnitude. Seventeen always suffice. -/
def shortest (x : Magnitude) : Digits :=
  if x.units = 0 then ⟨['0'], 1⟩
  else
    let (n, exponent) := x.firstHit x.decimalPoint 17 1
    let all := Nat.toDigits 10 n
    let kept := (all.reverse.dropWhile (· == '0')).reverse
    ⟨kept, exponent + all.length⟩

end Magnitude

end Flowmeter.Decimal
