import Flowmeter.Decimal.Numeral
import Flowmeter.Decimal.Binary64

/-!
# Decimal fractions

A decimal fraction is a sign, digits with at most one point, and an exponent; or one of the
words for an infinity and for what is no number. It reads as the nearest double.
-/

set_option autoImplicit false

namespace Flowmeter.Decimal

open Flowmeter.Text

/-- The parts of a decimal fraction: `digits * 10 ^ exponent`. -/
structure Fraction where
  negative : Bool
  digits : List Char
  exponent : Int

/-- The nearest double. Exponents that leave no doubt are settled without computing the
    power. -/
def Fraction.toDouble (f : Fraction) : Float :=
  let n := ofAsciiDigits f.digits
  let size : Int := decimalSize n
  if n = 0 ∨ size + f.exponent < -400 then doubleOfWord f.negative 0
  else if 400 < size + f.exponent then doubleOfWord f.negative Magnitude.infinityWord
  else doubleOfRatio f.negative (n * Nat.pow 10 f.exponent.toNat)
    (Nat.pow 10 (-f.exponent).toNat)
where
  /-- The number of digits of a natural number. -/
  decimalSize (n : Nat) : Nat := (Nat.toDigits 10 n).length

/-- The exponent part that the rest of a fraction consists of: nothing, or a letter, a sign
    and digits. -/
def readExponent? : List Char → Option Int
  | [] => some 0
  | c :: cs =>
      if c = 'e' ∨ c = 'E' then
        let (negative, digits) := takeSign cs
        if digits.isEmpty || !digits.all isAsciiDigit then none
        else some (signed negative (ofAsciiDigits digits))
      else none

/-- The parts of an unsigned fraction: digits before and after a point, at least one in all,
    then an exponent. -/
def readFraction? (negative : Bool) (cs : List Char) : Option Fraction :=
  let whole := cs.takeWhile isAsciiDigit
  let rest := cs.dropWhile isAsciiDigit
  let (places, rest) :=
    match rest with
    | '.' :: more => (more.takeWhile isAsciiDigit, more.dropWhile isAsciiDigit)
    | _ => ([], rest)
  if whole.isEmpty && places.isEmpty then none
  else (readExponent? rest).map fun e => ⟨negative, whole ++ places, e - (places.length : Int)⟩

/-- The text without underscores, each of which must stand between two digits. -/
def ungroupDigits? (cs : List Char) : Option (List Char) :=
  let groups := pieces (· == '_') cs
  let endsInDigit (g : List Char) : Bool := (g.getLast?.map isAsciiDigit).getD false
  let beginsWithDigit (g : List Char) : Bool := (g.head?.map isAsciiDigit).getD false
  if groups.dropLast.all endsInDigit && groups.tail.all beginsWithDigit then
    some groups.flatten
  else none

/-- The words for an infinity and for what is no number, in any case. -/
def readSpecial? (negative : Bool) (cs : List Char) : Option Float :=
  let word := String.ofList (cs.map Char.toLower)
  if word = "inf" ∨ word = "infinity" then some (doubleOfWord negative Magnitude.infinityWord)
  else if word = "nan" then some (doubleOfWord negative Magnitude.quietWord)
  else none

/-- The double that a text spells. -/
def readDouble? (cs : List Char) : Option Float := do
  let text ← ungroupDigits? (trimBy isAsciiBlank (plainForm cs))
  let (negative, body) := takeSign text
  match readSpecial? negative body with
  | some x => some x
  | none => (readFraction? negative body).map Fraction.toDouble

end Flowmeter.Decimal
