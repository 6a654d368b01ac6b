/-!
# Double precision by exact arithmetic

Every finite double is a whole number of units of 2 ^ -1074. A non-negative one is kept as a
`Magnitude`: a significand below 2 ^ 53 (or equal to it, after rounding up) and the number of
times it is doubled. Rounding a quotient of natural numbers to the nearest double is then one
exact division, ties going to the even significand; nothing here computes with `Float`.
-/

set_option autoImplicit false

namespace Flowmeter.Decimal

/-- The quotient rounded to the nearest whole number, a half to the even neighbour. -/
def roundDiv (n d : Nat) : Nat :=
  let q := n / d
  let twice := 2 * (n % d)
  if twice < d then q
  else if d < twice then q + 1
  else if q % 2 = 0 then q else q + 1

/-- The magnitude of a finite double: `significand * 2 ^ scale` units of 2 ^ -1074. -/
structure Magnitude where
  significand : Nat
  scale : Nat
deriving DecidableEq, Repr

namespace Magnitude

/-- How many units make one. -/
def unit : Nat := Nat.pow 2 1074

/-- The least significand of 53 digits, which all but the smallest magnitudes have. -/
def leastFull : Nat := Nat.pow 2 52

/-- The magnitude as a number of units. -/
def units (x : Magnitude) : Nat :=
  x.significand * Nat.pow 2 x.scale

/-- The place of the magnitude in the increasing sequence of all magnitudes, which is also its
    encoding as a word. -/
def word (x : Magnitude) : Nat :=
  x.scale * leastFull + x.significand

/-- The magnitude that a word below `infinityWord` encodes. -/
def ofWord (w : Nat) : Magnitude :=
  if w < 2 * leastFull then ⟨w, 0⟩ else ⟨w % leastFull + leastFull, w / leastFull - 1⟩

/-- The first word beyond the finite magnitudes. -/
def infinityWord : Nat := 2047 * leastFull

/-- The word of what is no number. -/
def quietWord : Nat := infinityWord + Nat.pow 2 51

/-- The magnitude nearest to `n / d`, however large. -/
def nearestUnbounded (n d : Nat) : Magnitude :=
  let scaled := n * unit
  let scale := (scaled / d).log2 + 1 - 53
  ⟨roundDiv scaled (d * Nat.pow 2 scale), scale⟩

/-- The magnitude nearest to `n / d`, unless it lies beyond the finite doubles. -/
def nearest? (n d : Nat) : Option Magnitude :=
  let x := nearestUnbounded n d
  if x.word < infinityWord then some x else none

/-- The magnitude nearest to a natural number, unless it lies beyond the finite doubles. -/
def ofNat? (n : Nat) : Option Magnitude :=
  nearest? n 1

end Magnitude

/-! ## Doubles and magnitudes -/

/-- What a double is, sign and magnitude apart. -/
inductive DoubleView where
  | nan
  | infinite (negative : Bool)
  | finite (negative : Bool) (magnitude : Magnitude)
deriving DecidableEq, Repr

/-- The word of the sign: words from here on are of negative doubles. -/
def signWord : Nat := Nat.pow 2 63

def DoubleView.of (x : Float) : DoubleView :=
  let bits := x.toBits.toNat
  let negative : Bool := signWord ≤ bits
  let w := bits % signWord
  if w < Magnitude.infinityWord then .finite negative (Magnitude.ofWord w)
  else if w = Magnitude.infinityWord then .infinite negative
  else .nan

/-- The double of a word and a sign. -/
def doubleOfWord (negative : Bool) (w : Nat) : Float :=
  Float.ofBits (UInt64.ofNat (if negative then signWord + w else w))

/-- The double that is no number. -/
def notANumber : Float := doubleOfWord false Magnitude.quietWord

/-- The double nearest to `n / d` with the given sign, infinite if it lies beyond the finite
    ones. -/
def doubleOfRatio (negative : Bool) (n d : Nat) : Float :=
  match Magnitude.nearest? n d with
  | some x => doubleOfWord negative x.word
  | none => doubleOfWord negative Magnitude.infinityWord

/-- The double nearest to an integer, unless it lies beyond the finite ones. -/
def doubleOfInt? (n : Int) : Option Float :=
  (Magnitude.ofNat? n.natAbs).map (fun x => doubleOfWord (n < 0) x.word)

/-- The quotient of units that a magnitude is, without its fraction. -/
def Magnitude.floor (x : Magnitude) : Nat :=
  x.units / Magnitude.unit

end Flowmeter.Decimal
