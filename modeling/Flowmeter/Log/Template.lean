import Flowmeter.Decimal.Scientific
import Flowmeter.Log.Directive

/-!
# Message templates

A message is written from a template and values. Outside directives the template stands as it
is, but a percent sign is written twice; each directive takes the next value, or the one under
its key where the values are a mapping, and all values of a list have to be used.

How a value is laid out is the same for all conversions: its text, perhaps cut, a sign, a mark
of the base, and filling up to the width.
-/

set_option autoImplicit false

namespace Flowmeter.Log

open Flowmeter.Config Flowmeter.Decimal Flowmeter.Text

/-! ## The values -/

/-- The values that are left, and the mapping that they are found in, if they are one. -/
structure Supply where
  mapping : Option (List (Scalar × Value))
  left : List Value

/-- Values in a row. A mapping alone, if it has entries, is what keys refer to. -/
def Supply.ofValues (values : List Value) : Supply :=
  match values with
  | [.map (entry :: entries)] => ⟨some (entry :: entries), values⟩
  | _ => ⟨none, values⟩

def Supply.take (supply : Supply) : Except TemplateFault (Value × Supply) :=
  match supply.left with
  | [] => .error .notEnough
  | v :: rest => .ok (v, { supply with left := rest })

/-- The supply after a key has been followed: the value under it is the only one left. -/
def Supply.follow (supply : Supply) : DirectiveKey → Except TemplateFault Supply
  | .none => .ok supply
  | .named key =>
      match supply.mapping with
      | none => .error .noMapping
      | some entries =>
          match entries.lookup (.text key) with
          | some v => .ok { supply with left := [v] }
          | none => .error (.unknownKey key)
  | .unclosed => .error (if supply.mapping.isSome then .incompleteKey else .noMapping)

/-- The largest width and the largest precision that can be said. -/
def maxWidth : Nat := Nat.pow 2 63 - 1

/-- The largest precision that can be said. -/
def maxPrecision : Nat := Nat.pow 2 31 - 1

/-- The largest precision that an integer can be written with. -/
def maxDigits : Nat := maxPrecision - 3

/-- The largest width that there is room for. -/
def maxRoom : Nat := Nat.pow 2 32

/-- The number of an extent that is taken from the values, which has to lie between the bound
    and the number just below its negative. -/
def Supply.takeExtent (bound : Nat) (supply : Supply) : Except TemplateFault (Int × Supply) := do
  let (v, supply) ← supply.take
  match v with
  | .scalar (.int n) =>
      if n < -(bound : Int) - 1 ∨ (bound : Int) < n then throw .extentBeyondRange
      return (n, supply)
  | .scalar (.bool b) => return (if b then 1 else 0, supply)
  | _ => throw .extentNotInteger

/-- The width of a directive. The least number that can be taken is no width, since there is no
    width that it is the negative of. -/
def Supply.width (supply : Supply) : Extent → Except TemplateFault (Option Int × Supply)
  | .unsaid => .ok (none, supply)
  | .said n => if maxWidth < n then .error .widthTooBig else .ok (some n, supply)
  | .taken => do
      let (n, supply) ← supply.takeExtent maxWidth
      return (if n < -(maxWidth : Int) then none else some n, supply)

/-- The precision of a directive; one below nought counts as nought. -/
def Supply.precision (supply : Supply) : Extent → Except TemplateFault (Option Nat × Supply)
  | .unsaid => .ok (none, supply)
  | .said n => if maxPrecision < n then .error .precisionTooBig else .ok (some n, supply)
  | .taken => do
      let (n, supply) ← supply.takeExtent maxPrecision
      return (some n.toNat, supply)

/-! ## Conversions -/

/-- The text of a value before it is laid out: sign, mark of the base, and body. -/
structure Written where
  sign : List Char
  base : List Char
  body : List Char
  isNumber : Bool

/-- A text that is no number. -/
def Written.plain (cs : List Char) : Written := ⟨[], [], cs, false⟩

/-- The integer of a value; a double loses its fraction. -/
def integerOf (c : Char) : Value → Except TemplateFault Int
  | .scalar (.int n) => .ok n
  | .scalar (.bool b) => .ok (if b then 1 else 0)
  | .scalar (.float x) =>
      match DoubleView.of x with
      | .nan => .error .undefinedToInteger
      | .infinite _ => .error .infiniteToInteger
      | .finite negative m => .ok (signed negative (m.units / Magnitude.unit))
  | v => .error (.notNumber c v.kind)

/-- The integer of a value that must be one. -/
def wholeOf (c : Char) : Value → Except TemplateFault Int
  | .scalar (.int n) => .ok n
  | .scalar (.bool b) => .ok (if b then 1 else 0)
  | v => .error (.notInteger c v.kind)

/-- The double of a value. -/
def doubleOf : Value → Except TemplateFault Float
  | .scalar (.bool b) => .ok (if b then 1 else 0)
  | .scalar (.int n) =>
      match doubleOfInt? n with
      | some x => .ok x
      | none => .error .beyondDoubles
  | .scalar (.float x) => .ok x
  | v => .error (.notDouble v.kind)

/-- The sign of a number: always a minus, a plus or a blank on demand. -/
def signOf (flags : List Char) (negative : Bool) : List Char :=
  if negative then ['-']
  else if flags.contains '+' then ['+']
  else if flags.contains ' ' then [' ']
  else []

/-- Digits with at least as many as the precision asks for. -/
def paddedDigits (precision : Option Nat) (digits : List Char) : List Char :=
  List.replicate (precision.getD 0 - digits.length) '0' ++ digits

/-- Refuses a precision that no integer can be written with. -/
def checkDigits (precision : Option Nat) : Except TemplateFault Unit :=
  if precision.any (maxDigits < ·) then .error .tooManyDigits else .ok ()

/-- An integer to a base. -/
def writeInteger (flags : List Char) (precision : Option Nat) (base : List Char) (n : Int)
    (digits : List Char) : Written :=
  ⟨signOf flags (n < 0), if flags.contains '#' then base else [],
    paddedDigits precision digits, true⟩

/-- A double. With an exponent the largest precision counts as nought, for the digit before the
    point would be one too many. -/
def writeFloat (flags : List Char) (precision : Option Nat) (c : Char) (x : Float) : Written :=
  let keepPoint := flags.contains '#'
  let places := precision.getD 6
  let upper := c.isUpper
  let body (m : Magnitude) : String :=
    match c.toLower with
    | 'e' => m.withExponent (if places = maxPrecision then 0 else places) keepPoint
    | 'g' => m.general places keepPoint
    | _ =>
        let digits := (fixedRatio places m.units Magnitude.unit).toList
        String.ofList (if keepPoint then withPoint digits else digits)
  let (negative, text) :=
    match DoubleView.of x with
    | .nan => (false, "nan")
    | .infinite negative => (negative, "inf")
    | .finite negative m => (negative, body m)
  ⟨signOf flags negative, [], (if upper then text.toUpper else text).toList, true⟩

/-- A character, by itself or by its number. A surrogate, which stands for none, is written as
    U+FFFD. -/
def writeCharacter : Value → Except TemplateFault Written
  | .scalar (.text s) =>
      match s.toList with
      | [c] => .ok (.plain [c])
      | _ => .error .notCharacter
  | v =>
      match wholeOf 'c' v with
      | .error _ => .error .notCharacter
      | .ok n =>
          if n < 0 then .error .characterOutOfRange
          else match CodePoint.ofNat? n.toNat with
            | some point => .ok (.plain [point.toChar])
            | none => .error .characterOutOfRange

/-- A text with everything beyond ASCII as an escape. -/
def asciiOnly (cs : List Char) : List Char :=
  cs.flatMap (fun c => if c.toNat < 0x80 then [c] else codeEscape c.toNat)

/-- A text, cut to the precision. -/
def writeText (precision : Option Nat) (text : Except NumeralFault String) :
    Except TemplateFault Written :=
  match text with
  | .error _ => .error .unwritable
  | .ok s =>
      .ok (.plain (match precision with | some n => s.toList.take n | none => s.toList))

/-- The text of a value under a conversion; `index` is where the conversion stands. -/
def convert (flags : List Char) (precision : Option Nat) (c : Char) (index : Nat) (v : Value) :
    Except TemplateFault Written :=
  match c with
  | 's' => writeText precision v.plainText
  | 'r' => writeText precision v.show
  | 'a' => writeText precision (v.show.map fun s => String.ofList (asciiOnly s.toList))
  | 'd' | 'i' | 'u' => do
      let n ← integerOf c v
      checkDigits precision
      match Decimal.writeInteger n.natAbs with
      | .error _ => throw .unwritable
      | .ok digits => return writeInteger flags precision [] n digits.toList
  | 'x' => do
      let n ← wholeOf c v
      checkDigits precision
      return writeInteger flags precision ['0', 'x'] n (Nat.toDigits 16 n.natAbs)
  | 'X' => do
      let n ← wholeOf c v
      checkDigits precision
      return writeInteger flags precision ['0', 'X'] n
        ((Nat.toDigits 16 n.natAbs).map Char.toUpper)
  | 'o' => do
      let n ← wholeOf c v
      checkDigits precision
      return writeInteger flags precision ['0', 'o'] n (Nat.toDigits 8 n.natAbs)
  | 'e' | 'E' | 'f' | 'F' | 'g' | 'G' => do
      return writeFloat flags precision c (← doubleOf v)
  | 'c' => writeCharacter v
  | c => .error (.unknownConversion c index)

/-! ## Layout -/

/-- A text filled up to a width: on the right on demand, and with noughts behind the sign of a
    number on demand. A negative width also asks for the right. -/
def Written.fill (flags : List Char) (width : Option Int) (w : Written) : List Char :=
  let right := flags.contains '-' || width.any (· < 0)
  let marks := w.sign ++ w.base
  let missing := (width.map Int.natAbs).getD 0 - (marks.length + w.body.length)
  if right then marks ++ w.body ++ List.replicate missing ' '
  else if w.isNumber && flags.contains '0' then marks ++ List.replicate missing '0' ++ w.body
  else List.replicate missing ' ' ++ marks ++ w.body

/-! ## Templates -/

/-- Writes one directive; `index` is where its conversion stands. -/
def Directive.write (d : Directive) (index : Nat) (supply : Supply) :
    Except TemplateFault (List Char × Supply) := do
  let supply ← supply.follow d.key
  let (width, supply) ← supply.width d.width
  let (precision, supply) ← supply.precision d.precision
  match d.conversion with
  | none => throw .incomplete
  | some c =>
      let (v, supply) ← supply.take
      let written ← convert d.flags precision c index v
      if width.any (fun n => maxRoom < n.natAbs) then throw .tooWide
      return (written.fill d.flags width, supply)

/-- The message of a template of `size` characters, from the part of it that is left. The fuel
    is the number of those. -/
def fillFrom (size : Nat) : Nat → List Char → Supply → Except TemplateFault (List Char)
  | 0, _, supply | _, [], supply =>
      if supply.mapping.isNone && !supply.left.isEmpty then .error .leftOver else .ok []
  | fuel + 1, '%' :: '%' :: cs, supply => do return '%' :: (← fillFrom size fuel cs supply)
  | fuel + 1, '%' :: cs, supply => do
      let (d, rest) := Directive.read cs
      let (written, supply) ← d.write (size - rest.length - 1) supply
      return written ++ (← fillFrom size fuel rest supply)
  | fuel + 1, c :: cs, supply => do return c :: (← fillFrom size fuel cs supply)

/-- The message of a template and values. Without values the template stands as it is. -/
def fillTemplate (template : String) (values : List Value) : Except TemplateFault String :=
  if values.isEmpty then .ok template
  else
    let cs := template.toList
    (fillFrom cs.length cs.length cs (Supply.ofValues values)).map String.ofList

end Flowmeter.Log
