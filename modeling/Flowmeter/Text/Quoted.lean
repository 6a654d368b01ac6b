import Flowmeter.Text.CodePoint
import Flowmeter.Text.Digit
import Flowmeter.Text.Printable

/-!
# Quoted texts

A message shows a text or a run of bytes between quotation marks, so that the reader sees
where it ends and which invisible characters it holds. The marks are single unless the text
holds a single mark and no double one; what cannot be shown is written as an escape with as
few hexadecimal digits as its range allows.
-/

set_option autoImplicit false

namespace Flowmeter.Text

/-- The mark that surrounds a text: double only where that avoids an escape. -/
def quoteMark (cs : List Char) : Char :=
  if cs.contains '\x27' && !cs.contains '\x22' then '\x22' else '\x27'

/-- The escapes with a letter of their own. -/
def letterEscape? (c : Char) : Option Char :=
  if c = '\n' then some 'n'
  else if c = '\r' then some 'r'
  else if c = '\t' then some 't'
  else none

/-- An escape by code point: two, four or eight hexadecimal digits. -/
def codeEscape (n : Nat) : List Char :=
  if n < 0x100 then '\\' :: 'x' :: hexText 2 n
  else if n < 0x10000 then '\\' :: 'u' :: hexText 4 n
  else '\\' :: 'U' :: hexText 8 n

/-- One character as it stands between the marks. -/
def quoteChar (mark : Char) (c : Char) : List Char :=
  if c = mark ∨ c = '\\' then ['\\', c]
  else match letterEscape? c with
    | some letter => ['\\', letter]
    | none => if isPrintable c then [c] else codeEscape c.toNat

/-- A text between quotation marks. -/
def quote (cs : List Char) : List Char :=
  let mark := quoteMark cs
  mark :: (cs.flatMap (quoteChar mark) ++ [mark])

/-- A text between quotation marks. -/
def quoted (s : String) : String :=
  String.ofList (quote s.toList)

/-! ## Code points -/

/-- One code point as it stands between the marks: a surrogate is an escape. -/
def quotePoint (mark : Char) : CodePoint → List Char
  | .char c => quoteChar mark c
  | .surrogate offset => codeEscape (CodePoint.surrogate offset).toNat

/-- Code points between quotation marks. -/
def quotedPoints (points : List CodePoint) : String :=
  let mark := quoteMark (points.filterMap CodePoint.char?)
  String.ofList (mark :: (points.flatMap (quotePoint mark) ++ [mark]))

/-! ## Bytes -/

/-- One byte as it stands between the marks: ASCII is shown, the rest is an escape. -/
def quoteByte (mark : Char) (b : UInt8) : List Char :=
  let c := Char.ofNat b.toNat
  if b < 0x80 then quoteChar mark c else codeEscape b.toNat

/-- A run of bytes between quotation marks, with the letter that tells it from a text. -/
def quotedBytes (bytes : List UInt8) : String :=
  let mark := quoteMark (bytes.map (fun b => Char.ofNat b.toNat))
  String.ofList ('b' :: mark :: (bytes.flatMap (quoteByte mark) ++ [mark]))

end Flowmeter.Text
