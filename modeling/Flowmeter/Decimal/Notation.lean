import Flowmeter.Decimal.Shortest

/-!
# How numbers are written

A number is written positionally while its point stands within a window and with an exponent
outside it. Messages and configuration values use one window, the text that a scraper reads
another; both write a whole number with `.0`, and an exponent with a sign and at least two
digits.
-/

set_option autoImplicit false

namespace Flowmeter.Decimal

/-- The window of positions of the point within which a number is written positionally: from
    `low` (exclusive) to `high`. -/
structure Window where
  low : Int
  high : Int

/-- The window of messages and configuration values: from 0.0001 to below 10 ^ 16. -/
def Window.plain : Window := ⟨-4, 16⟩

/-- The window of positive sample values: from 0.0001 to below 10 ^ 6. -/
def Window.sample : Window := ⟨-4, 6⟩

/-- The exponent: a sign and at least two digits. -/
def exponentText (e : Int) : String :=
  let digits := toString e.natAbs
  (if e < 0 then "e-" else "e+") ++ (if digits.length < 2 then "0" else "") ++ digits

/-- A decimal as text: the point inside or beside the digits, or an exponent. -/
def Digits.write (window : Window) (d : Digits) : String :=
  let size : Int := d.digits.length
  if window.low < d.point ∧ d.point ≤ window.high then
    if d.point ≤ 0 then
      "0." ++ String.ofList (List.replicate (-d.point).toNat '0' ++ d.digits)
    else if size ≤ d.point then
      String.ofList (d.digits ++ List.replicate (d.point - size).toNat '0') ++ ".0"
    else
      String.ofList (d.digits.take d.point.toNat) ++ "." ++
        String.ofList (d.digits.drop d.point.toNat)
  else
    let mantissa :=
      match d.digits with
      | [] => ""
      | [c] => String.ofList [c]
      | c :: rest => String.ofList (c :: '.' :: rest)
    mantissa ++ exponentText (d.point - 1)

/-- A magnitude by its shortest digits. -/
def Magnitude.write (window : Window) (x : Magnitude) : String :=
  x.shortest.write window

/-- A double by its shortest digits. -/
def writeDouble (x : Float) : String :=
  match DoubleView.of x with
  | .nan => "nan"
  | .infinite negative => if negative then "-inf" else "inf"
  | .finite negative magnitude =>
      (if negative then "-" else "") ++ magnitude.write Window.plain

/-! ## Fixed places -/

/-- A quotient with a fixed number of places, a half going to the even neighbour. -/
def fixedRatio (places n d : Nat) : String :=
  let scaled := roundDiv (n * Nat.pow 10 places) d
  let whole := toString (scaled / Nat.pow 10 places)
  if places = 0 then whole
  else
    let fraction := toString (scaled % Nat.pow 10 places)
    whole ++ "." ++ String.ofList (List.replicate (places - fraction.length) '0') ++ fraction

/-- A double with a fixed number of places. -/
def fixedDouble (places : Nat) (x : Float) : String :=
  match DoubleView.of x with
  | .nan => "nan"
  | .infinite negative => if negative then "-inf" else "inf"
  | .finite negative magnitude =>
      (if negative then "-" else "") ++ fixedRatio places magnitude.units Magnitude.unit

end Flowmeter.Decimal
