import Flowmeter.Calendar
import Flowmeter.Decimal.Numeral
import Flowmeter.Text.Quoted
import Flowmeter.Text.Utf8

/-!
# Why a file is no document

A file can fail to be a document in six ways, by the layer at which it fails: its bytes, its
characters, its tokens, their structure, references between nodes, and what a node stands for.
A scalar that looks like a number or a date and is none fails in a way of its own.
-/

set_option autoImplicit false

namespace Flowmeter.Yaml

open Flowmeter.Text

/-- What is wrong with the parts of a date or of a time of day. -/
inductive CalendarFault where
  | year (n : Nat)
  | month
  | day
  | hour
  | minute
  | second
  | offset (seconds : Int)
deriving DecidableEq, Repr

/-- Why a file is no document. -/
inductive Fault where
  /-- Bytes that make no character. -/
  | encoding (fault : Utf8.Fault)
  /-- A character that no document may hold. -/
  | character
  /-- Characters that make no token. -/
  | token
  /-- Tokens that make no node. -/
  | arrangement
  /-- A reference to nothing, a name given twice, or more than one document. -/
  | reference
  /-- A node that stands for no value. -/
  | value
  /-- An escape beyond the last character. -/
  | beyondCharacters
  /-- An escape beyond the numbers that a character could have. -/
  | beyondNumbers
  /-- A numeral of a base that is none. -/
  | notInteger (base : Nat) (text : List CodePoint)
  /-- A numeral with too many digits. -/
  | tooLong (digits : Nat)
  | notFraction (text : List CodePoint)
  /-- A part of a fraction by sixties whose worth lies beyond the doubles. -/
  | beyondDoubles
  /-- A number without characters. -/
  | emptyNumber
  | notTruth (text : List CodePoint)
  | notInstant
  /-- A mapping in the place of a date. -/
  | mappingForInstant
  | calendar (fault : CalendarFault)
deriving DecidableEq, Repr

def CalendarFault.message : CalendarFault → String
  | .year n => s!"year {n} is out of range"
  | .month => "month must be in 1..12"
  | .day => "day is out of range for month"
  | .hour => "hour must be in 0..23"
  | .minute => "minute must be in 0..59"
  | .second => "second must be in 0..59"
  | .offset seconds =>
      "offset must be a timedelta strictly between -timedelta(hours=24) and " ++
        "timedelta(hours=24), not " ++ showSpan seconds ++ "."

/-- Whether a fault lies in a number, a date or a character that is none. -/
def Fault.isOfNotation : Fault → Bool
  | .encoding _ | .beyondCharacters | .notInteger _ _ | .tooLong _ | .notFraction _
  | .calendar _ => true
  | _ => false

/-- How many characters a message shows of what is no integer. -/
def shownLength : Nat := 200

/-- The message about a scalar that is not what it looks like. The other ways to fail are told
    by their layer alone. -/
def Fault.message : Fault → String
  | .encoding fault => fault.message
  | .beyondCharacters => "chr() arg not in range(0x110000)"
  | .notInteger base text =>
      s!"invalid literal for int() with base {base}: " ++
        String.ofList ((quotedPoints text).toList.take shownLength)
  | .tooLong digits => Decimal.tooLongMessage digits
  | .notFraction text => "could not convert string to float: " ++ quotedPoints text
  | .beyondDoubles => "int too large to convert to float"
  | .emptyNumber => "string index out of range"
  | .notTruth text => quotedPoints text
  | .notInstant => "\x27NoneType\x27 object has no attribute \x27groupdict\x27"
  | .mappingForInstant => "expected string or bytes-like object, got \x27list\x27"
  | .calendar fault => fault.message
  | .character | .token | .arrangement | .reference | .value | .beyondNumbers => ""

end Flowmeter.Yaml
