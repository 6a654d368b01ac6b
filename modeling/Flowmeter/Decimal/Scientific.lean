import Flowmeter.Decimal.Notation

/-!
# Numbers with given significant digits

A magnitude rounded to a number of significant digits is a whole number of that many digits
and the exponent of its first digit. From it come the two notations that ask for significant
digits: always with an exponent, or with one only outside a window that ends at the precision.
-/

set_option autoImplicit false

namespace Flowmeter.Decimal

/-- The numeral of a magnitude in units of 10 ^ -1074, which is exact. -/
def Magnitude.expansion (x : Magnitude) : Nat :=
  x.units * Nat.pow 5 1074

/-- A magnitude to `count + 1` significant digits: those digits, and the exponent of the
    first. -/
def Magnitude.significant (count : Nat) (x : Magnitude) : List Char × Int :=
  let exact := x.expansion
  if exact = 0 then (List.replicate (count + 1) '0', 0)
  else
    let size := (toString exact).length
    let rounded :=
      if size ≤ count then exact * Nat.pow 10 (count + 1 - size)
      else roundDiv exact (Nat.pow 10 (size - 1 - count))
    let exponent : Int := (size : Int) - 1 - 1074
    if rounded = Nat.pow 10 (count + 1) then
      ((toString (Nat.pow 10 count)).toList, exponent + 1)
    else ((toString rounded).toList, exponent)

/-- Digits with a point after the first. -/
def pointed : List Char → List Char
  | [] => []
  | [c] => [c]
  | c :: rest => c :: '.' :: rest

/-- A numeral with a point, at its end if it has none. -/
def withPoint (cs : List Char) : List Char :=
  if cs.contains '.' then cs else cs ++ ['.']

/-- A magnitude with an exponent and `places` digits after the point, which stands also where
    no digit follows it on demand. -/
def Magnitude.withExponent (places : Nat) (keepPoint : Bool) (x : Magnitude) : String :=
  let (digits, exponent) := x.significant places
  let digits := pointed digits
  String.ofList (if keepPoint then withPoint digits else digits) ++ exponentText exponent

/-- A numeral without the noughts at the end of its fraction, and without its point if nothing
    is left behind it. -/
def withoutTrailingNoughts (cs : List Char) : List Char :=
  if cs.contains '.' then
    let kept := (cs.reverse.dropWhile (· == '0'))
    (if kept.head? = some '.' then kept.tail else kept).reverse
  else cs

/-- More significant digits than any magnitude has. -/
def mostDigits : Nat := 1200

/-- A magnitude with `precision` significant digits, positionally where its exponent is at
    least -4 and below the precision. Noughts at the end and a point that nothing follows are
    kept only on demand; where they are not, no more digits are asked for than there are. -/
def Magnitude.general (precision : Nat) (keepPoint : Bool) (x : Magnitude) : String :=
  let precision := if keepPoint then precision else min precision mostDigits
  let count := (max precision 1) - 1
  let (digits, exponent) := x.significant count
  let finish (cs : List Char) : List Char :=
    if keepPoint then withPoint cs else withoutTrailingNoughts cs
  if -4 ≤ exponent ∧ exponent ≤ (count : Int) then
    String.ofList (finish (fixedRatio ((count : Int) - exponent).toNat x.units
      Magnitude.unit).toList)
  else String.ofList (finish (pointed digits)) ++ exponentText exponent

end Flowmeter.Decimal
