/-!
# Code points

An escape can name any code point, also one of the surrogates, which stand for no character by
themselves. So a text that comes from escapes is a list of code points; it is a string exactly
if no surrogate is among them (`string?_ofString`).
-/

set_option autoImplicit false

namespace Flowmeter.Text

/-- A code point: a character, or a surrogate by its distance from the first one. -/
inductive CodePoint where
  | char (c : Char)
  | surrogate (offset : Fin 0x800)
deriving DecidableEq, Repr

namespace CodePoint

/-- The number of the first surrogate. -/
def firstSurrogate : Nat := 0xD800

/-- The number of a code point. -/
def toNat : CodePoint → Nat
  | .char c => c.toNat
  | .surrogate offset => firstSurrogate + offset.val

/-- The code point of a number, if there is one. -/
def ofNat? (n : Nat) : Option CodePoint :=
  if n.isValidChar then some (.char (Char.ofNat n))
  else if h : n - firstSurrogate < 0x800 then some (.surrogate ⟨n - firstSurrogate, h⟩)
  else none

/-- The character that a code point is. -/
def char? : CodePoint → Option Char
  | .char c => some c
  | .surrogate _ => none

/-- The character that a code point is. A surrogate reads as U+FFFD, which is no part of any
    number, word or date. -/
def toChar : CodePoint → Char
  | .char c => c
  | .surrogate _ => '\uFFFD'

/-- The code points of a string. -/
def ofString (s : String) : List CodePoint :=
  s.toList.map .char

/-- The string of code points, if none of them is a surrogate. -/
def string? (points : List CodePoint) : Option String :=
  (points.mapM char?).map String.ofList

/-- A string in which U+FFFD stands for each surrogate. -/
def shown (points : List CodePoint) : String :=
  String.ofList (points.map toChar)

end CodePoint

end Flowmeter.Text
