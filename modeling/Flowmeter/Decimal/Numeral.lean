import Flowmeter.Text.Blank
import Flowmeter.Text.Digit

/-!
# Integer numerals

An integer numeral is a sign and digits of any script, with single underscores between
digits and blanks around. A numeral of more than `digitLimit` digits is refused as such, so a
reader can tell a hostile numeral from a malformed one; counters of the table, which take
only ASCII digits, share that limit.
-/

set_option autoImplicit false

namespace Flowmeter.Decimal

open Flowmeter.Text

/-- The most digits that a numeral may have, leading noughts included. -/
def digitLimit : Nat := 4300

/-- Why a text is no numeral. -/
inductive NumeralFault where
  | malformed
  | tooLong (digits : Nat)
deriving DecidableEq, Repr

/-- The message about a numeral with too many digits. -/
def tooLongMessage (digits : Nat) : String :=
  s!"Exceeds the limit ({digitLimit} digits) for integer string conversion: value has " ++
    s!"{digits} digits; use sys.set_int_max_str_digits() to increase the limit"

/-- The message about a number whose numeral would have too many digits. -/
def tooLargeToWriteMessage : String :=
  s!"Exceeds the limit ({digitLimit} digits) for integer string conversion; use " ++
    "sys.set_int_max_str_digits() to increase the limit"

/-! ## Digits of other scripts -/

/-- A character of a numeral in ASCII: a digit becomes the ASCII digit of its value and a
    blank the space; nothing else beyond ASCII belongs to a numeral, and `?` stands for it. -/
def asciiForm (c : Char) : Char :=
  if c.toNat < 127 then c
  else if isBlank c then ' '
  else match digitValue? c with
    | some v => Char.ofNat (0x30 + v)
    | none => '?'

def plainForm (cs : List Char) : List Char :=
  cs.map asciiForm

/-- The sign in front of a numeral, `true` for a minus, and what follows it. -/
def takeSign : List Char → Bool × List Char
  | '-' :: cs => (true, cs)
  | '+' :: cs => (false, cs)
  | cs => (false, cs)

/-- A number with its sign. -/
def signed (negative : Bool) (n : Nat) : Int :=
  if negative then -(n : Int) else n

/-! ## Reading -/

/-- The digits of a run in which single underscores stand between digits. -/
def ungroup? (run : List Char) : Option (List Char) :=
  let groups := pieces (· == '_') run
  if groups.any (·.isEmpty) then none else some groups.flatten

/-- The integer that a text spells. An underscore out of place is a malformed numeral
    whatever its length; the length is judged before what follows the digits. -/
def readInteger (cs : List Char) : Except NumeralFault Int :=
  let (negative, body) := takeSign ((plainForm cs).dropWhile isAsciiBlank)
  let isBody (c : Char) : Bool := isAsciiDigit c || c == '_'
  match ungroup? (body.takeWhile isBody) with
  | none => .error .malformed
  | some digits =>
      if digitLimit < digits.length then .error (.tooLong digits.length)
      else if ((body.dropWhile isBody).dropWhile isAsciiBlank).isEmpty then
        .ok (signed negative (ofAsciiDigits digits))
      else .error .malformed

/-- Whether a counter is written as one should be, in ASCII digits only. -/
def isCounterNumeral (cs : List Char) : Bool :=
  !cs.isEmpty && cs.all isAsciiDigit

/-- The value of a counter; nought if it is not written in ASCII digits. -/
def counterValue (cs : List Char) : Nat :=
  if isCounterNumeral cs then ofAsciiDigits cs else 0

/-- The number of digits of a counter that has too many of them. -/
def oversizedCounter? (cs : List Char) : Option Nat :=
  if isCounterNumeral cs && digitLimit < cs.length then some cs.length else none

/-! ## Writing -/

/-- The decimal numeral of an integer, unless it would have too many digits. -/
def writeInteger (n : Int) : Except NumeralFault String :=
  let text := toString n.natAbs
  if digitLimit < text.length then .error (.tooLong text.length) else .ok (toString n)

end Flowmeter.Decimal
