import Flowmeter.Config.Value
import Flowmeter.Decimal.Reading
import Flowmeter.Text.Case
import Flowmeter.Yaml.Fault
import Flowmeter.Yaml.Tag

/-!
# What scalars stand for

A tag says how the text of a scalar is read. A plain scalar that was given its tag by its
spelling always has a value but for its size or its date; a text under an explicit tag may be
anything.
-/

set_option autoImplicit false

namespace Flowmeter.Yaml

open Flowmeter.Config Flowmeter.Text Flowmeter.Decimal

/-- The sign in front of a number, which may not be empty, and what follows it. -/
def takeNumberSign : List CodePoint → Except Fault (Bool × List CodePoint)
  | [] => .error .emptyNumber
  | .char '-' :: rest => .ok (true, rest)
  | .char '+' :: rest => .ok (false, rest)
  | text => .ok (false, text)

def withoutUnderscores (text : List CodePoint) : List CodePoint :=
  text.filter (· != .char '_')

/-- The parts of a number between colons; nothing if it has none. -/
def sixtiesOf? (text : List CodePoint) : Option (List (List CodePoint)) :=
  if text.contains (.char ':') then some (pieces (· == .char ':') text) else none

/-- The sum of parts, each worth sixty times the one after it. -/
def sumSixties (parts : List Int) : Int :=
  parts.foldl (fun n part => 60 * n + part) 0

/-! ## Integers -/

/-- An integer to base ten. -/
def readDecimal (text : List CodePoint) : Except Fault Int :=
  match readInteger (text.map CodePoint.toChar) with
  | .ok n => .ok n
  | .error (.tooLong digits) => .error (.tooLong digits)
  | .error .malformed => .error (.notInteger 10 text)

/-- The value of a digit to a base. -/
def digitOfBase? (base : Nat) (c : Char) : Option Nat :=
  match hexDigitValue? c with
  | some v => if v < base then some v else none
  | none => none

/-- The letters that may stand before a numeral to a base, after a nought. -/
def baseLetter (base : Nat) : Char :=
  if base = 2 then 'b' else if base = 8 then 'o' else 'x'

/-- An integer to base two, eight or sixteen. -/
def readToBase (base : Nat) (text : List CodePoint) : Except Fault Int :=
  let (negative, body) :=
    takeSign (trimBy isAsciiBlank (plainForm (text.map CodePoint.toChar)))
  let digits :=
    match body with
    | '0' :: c :: rest => if c.toLower = baseLetter base ∧ !rest.isEmpty then rest else body
    | _ => body
  match digits.mapM (digitOfBase? base) with
  | some (d :: ds) => .ok (signed negative ((d :: ds).foldl (fun n d => base * n + d) 0))
  | _ => .error (.notInteger base text)

/-- The integer that a scalar spells. -/
def integerOf (text : List CodePoint) : Except Fault Int := do
  let (negative, body) ← takeNumberSign (withoutUnderscores text)
  let n ←
    match body with
    | [.char '0'] => pure 0
    | .char '0' :: .char 'b' :: rest => readToBase 2 rest
    | .char '0' :: .char 'x' :: rest => readToBase 16 rest
    | .char '0' :: _ => readToBase 8 body
    | [] => throw .emptyNumber
    | _ =>
        match sixtiesOf? body with
        | some parts => pure (sumSixties (← parts.mapM readDecimal))
        | none => readDecimal body
  return if negative then -n else n

/-! ## Fractions -/

def readFraction (text : List CodePoint) : Except Fault Float :=
  match readDouble? (text.map CodePoint.toChar) with
  | some x => .ok x
  | none => .error (.notFraction text)

/-- The sum of parts, the last of which comes first, each multiplied by its worth: `worth` for
    the first and sixty times as much for each one after it. What a part is worth is an exact
    number that must be near a double. -/
def sumFractionSixties : Nat → Float → List Float → Except Fault Float
  | _, sum, [] => .ok sum
  | worth, sum, part :: rest =>
      match doubleOfInt? worth with
      | some factor => sumFractionSixties (60 * worth) (sum + part * factor) rest
      | none => .error .beyondDoubles

/-- A number without underscores, in small letters and its sign apart. -/
def fractionParts (text : List CodePoint) : Except Fault (Bool × List CodePoint) :=
  takeNumberSign (smallLetters (withoutUnderscores text))

def infinityName : List CodePoint := CodePoint.ofString ".inf"

/-- The word for what is no number. -/
def notANumberName : List CodePoint := CodePoint.ofString ".nan"

/-- Whether a fraction is the word for what is no number, perhaps with a sign. -/
def isNotANumberName (text : List CodePoint) : Bool :=
  match fractionParts text with
  | .ok (_, body) => body = notANumberName
  | .error _ => false

/-- The fraction that a scalar spells. -/
def fractionOf (text : List CodePoint) : Except Fault Float := do
  let (negative, body) ← fractionParts text
  let sign : Float := if negative then -1 else 1
  if body = infinityName then
    return doubleOfWord negative Magnitude.infinityWord
  else if body = notANumberName then
    return notANumber
  else
    match sixtiesOf? body with
    | some parts => return sign * (← sumFractionSixties 1 0 (← parts.mapM readFraction).reverse)
    | none => return sign * (← readFraction body)

/-! ## Dates and instants -/

/-- The number that the digits at the front spell, and what follows them and one more
    character. -/
def takeNumber (cs : List Char) : Nat × List Char :=
  (ofAsciiDigits (cs.takeWhile isAsciiDigit), (cs.dropWhile isAsciiDigit).drop 1)

/-- The microseconds that a fraction of a second spells, to six places. -/
def microsecondsOf (digits : List Char) : Nat :=
  let places := digits.take 6
  ofAsciiDigits (places ++ List.replicate (6 - places.length) '0')

/-- An offset from universal time: none, universal time itself, or a sign, hours and
    minutes. -/
def offsetOf (cs : List Char) : Except Fault (Option Int) :=
  match cs.dropWhile (fun c => c == ' ' || c == '\t') with
  | 'Z' :: _ => .ok (some 0)
  | sign :: rest =>
      if sign = '+' ∨ sign = '-' then
        let (hours, rest) := takeNumber rest
        let (minutes, _) := takeNumber rest
        let seconds : Int := signed (sign == '-') (hours * 3600 + minutes * 60)
        if seconds.natAbs < 86400 then .ok (some seconds)
        else .error (.calendar (.offset seconds))
      else .ok none
  | [] => .ok none

/-- Refuses what is out of range. -/
def checkRange (holds : Bool) (fault : CalendarFault) : Except Fault Unit :=
  if holds then .ok () else .error (.calendar fault)

/-- A date whose parts are in range. -/
def checkedDate (year month day : Nat) : Except Fault Date := do
  checkRange (1 ≤ year) (.year year)
  checkRange (1 ≤ month && month ≤ 12) .month
  checkRange (1 ≤ day && day ≤ Date.daysIn year month) .day
  return ⟨year, month, day⟩

/-- The date or instant that a scalar spells. -/
def instantOf (text : List CodePoint) : Except Fault Scalar := do
  let cs := text.map CodePoint.toChar
  if !timestampPattern.accepts cs && !loneDatePattern.accepts cs then throw .notInstant
  let (year, rest) := takeNumber cs
  let (month, rest) := takeNumber rest
  let day := ofAsciiDigits (rest.takeWhile isAsciiDigit)
  let rest := rest.dropWhile isAsciiDigit
  if !rest.any isAsciiDigit then return .date (← checkedDate year month day)
  else
    let (hour, rest) := takeNumber (rest.dropWhile (fun c => !isAsciiDigit c))
    let (minute, rest) := takeNumber rest
    let second := ofAsciiDigits (rest.takeWhile isAsciiDigit)
    let rest := rest.dropWhile isAsciiDigit
    let (microsecond, rest) :=
      match rest with
      | '.' :: more => (microsecondsOf (more.takeWhile isAsciiDigit), more.dropWhile isAsciiDigit)
      | _ => (0, rest)
    let offset ← offsetOf rest
    let date ← checkedDate year month day
    checkRange (hour ≤ 23) .hour
    checkRange (minute ≤ 59) .minute
    checkRange (second ≤ 59) .second
    return .instant ⟨date, hour, minute, second, microsecond, offset⟩
where
  /-- A date whose month and day may have one digit. -/
  loneDatePattern : Pattern :=
    let digit := Pattern.one isAsciiDigit
    let digits1or2 := Pattern.seq digit (Pattern.optional digit)
    Pattern.all [digit, digit, digit, digit, Pattern.char '-', digits1or2, Pattern.char '-',
      digits1or2]

/-! ## Bytes -/

/-- The value of a character of base 64. -/
def base64Value? (c : Char) : Option Nat :=
  let n := c.toNat
  if 0x41 ≤ n && n ≤ 0x5A then some (n - 0x41)
  else if 0x61 ≤ n && n ≤ 0x7A then some (n - 0x61 + 26)
  else if 0x30 ≤ n && n ≤ 0x39 then some (n - 0x30 + 52)
  else if c = '+' then some 62
  else if c = '/' then some 63
  else none

/-- The bytes of base 64, `held` being the values of an unfinished group and `pads` the padding
    seen since. Other characters are passed over; an unfinished group must be padded. -/
def ofBase64 : List Nat → Nat → List Char → Except Fault (List UInt8)
  | held, _, [] => if held.isEmpty then .ok [] else .error .value
  | held, pads, c :: rest =>
      if c = '=' then
        if 2 ≤ held.length ∧ 4 ≤ held.length + pads + 1 then .ok (finish held)
        else ofBase64 held (if 2 ≤ held.length then pads + 1 else pads) rest
      else match base64Value? c with
        | none => ofBase64 held pads rest
        | some v =>
            match held with
            | [a, b, c] =>
                return finish [a, b, c] ++ [UInt8.ofNat (c % 4 * 64 + v)] ++ (← ofBase64 [] 0 rest)
            | _ => ofBase64 (held ++ [v]) 0 rest
where
  /-- The whole bytes of an unfinished group. -/
  finish : List Nat → List UInt8
    | [a, b] => [UInt8.ofNat (a * 4 + b / 16)]
    | [a, b, c] => [UInt8.ofNat (a * 4 + b / 16), UInt8.ofNat (b % 16 * 16 + c / 4)]
    | _ => []

/-- The bytes that a scalar spells. -/
def bytesOf (text : List CodePoint) : Except Fault (List UInt8) :=
  if text.all (fun p => p.toNat < 128) then ofBase64 [] 0 (text.map CodePoint.toChar)
  else .error .value

/-! ## Truth values -/

/-- The words for truth values, in lower case. -/
def truthWords : List (String × Bool) :=
  [("yes", true), ("no", false), ("true", true), ("false", false), ("on", true), ("off", false)]

/-- The truth value that a scalar spells. -/
def truthOf (text : List CodePoint) : Except Fault Bool :=
  let word := smallLetters text
  match (CodePoint.string? word).bind (fun s => truthWords.lookup s) with
  | some b => .ok b
  | none => .error (.notTruth word)

/-! ## By tag -/

/-- What a scalar stands for under a tag that is for scalars. -/
def scalarOf (tag : Tag) (text : List CodePoint) : Except Fault Scalar :=
  match tag with
  | .null => .ok .null
  | .bool => (truthOf text).map .bool
  | .int => (integerOf text).map .int
  | .float => (fractionOf text).map .float
  | .binary => (bytesOf text).map .bytes
  | .timestamp => instantOf text
  | .str => .ok (.ofPoints text)
  | _ => .error .value

end Flowmeter.Yaml
