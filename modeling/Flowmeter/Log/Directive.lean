import Flowmeter.Config.Mismatch
import Flowmeter.Text.Digit

/-!
# Directives of a message template

A directive begins with a percent sign and says how one value is written: under which key it
is found, how wide and how precise it is written, and its conversion. Width and precision may
be taken from the values themselves.

Reading a directive never fails. One that is cut off has no conversion, and a key without its
closing bracket is kept as such, so the fault that comes first in the text is the one that is
reported when the directive is used.
-/

set_option autoImplicit false

namespace Flowmeter.Log

open Flowmeter.Text

/-- How wide or how precise a value is written. -/
inductive Extent where
  | unsaid
  | said (n : Nat)
  | taken
deriving DecidableEq, Repr

/-- The key of a directive. -/
inductive DirectiveKey where
  | none
  | named (key : String)
  | unclosed
deriving DecidableEq, Repr

/-- How one value is written. -/
structure Directive where
  key : DirectiveKey
  flags : List Char
  width : Extent
  precision : Extent
  conversion : Option Char
deriving DecidableEq, Repr

namespace Directive

/-- The characters of a key up to the bracket that closes it, and what follows, `depth`
    brackets being open inside it. -/
def readKey : Nat → List Char → Option (List Char × List Char)
  | _, [] => none
  | depth, c :: cs =>
      if c = ')' then
        match depth with
        | 0 => some ([], cs)
        | depth + 1 => (readKey depth cs).map fun (key, rest) => (c :: key, rest)
      else
        (readKey (if c = '(' then depth + 1 else depth) cs).map fun (key, rest) =>
          (c :: key, rest)

/-- Whether a character is a flag. -/
def isFlag (c : Char) : Bool :=
  "-+ #0".toList.contains c

/-- A number or a star. -/
def readExtent : List Char → Extent × List Char
  | '*' :: cs => (.taken, cs)
  | cs =>
      match cs.takeWhile isAsciiDigit with
      | [] => (.unsaid, cs)
      | digits => (.said (ofAsciiDigits digits), cs.dropWhile isAsciiDigit)

/-- A precision after its point; a point alone says nought. -/
def readPrecision : List Char → Extent × List Char
  | '.' :: cs =>
      match readExtent cs with
      | (.unsaid, rest) => (.said 0, rest)
      | read => read
  | cs => (.unsaid, cs)

/-- A letter for the size of a number says nothing. -/
def skipSize : List Char → List Char
  | c :: cs => if "hlL".toList.contains c then cs else c :: cs
  | [] => []

/-- What follows the key of a directive. -/
def readAfterKey (key : DirectiveKey) (cs : List Char) : Directive × List Char :=
  let flags := cs.takeWhile isFlag
  let (width, cs) := readExtent (cs.dropWhile isFlag)
  let (precision, cs) := readPrecision cs
  let cs := skipSize cs
  (⟨key, flags, width, precision, cs.head?⟩, cs.tail)

/-- The directive at the beginning of a text, behind its percent sign, and what follows it. -/
def read : List Char → Directive × List Char
  | '(' :: cs =>
      match readKey 0 cs with
      | some (key, rest) => readAfterKey (.named (String.ofList key)) rest
      | none => (⟨.unclosed, [], .unsaid, .unsaid, none⟩, [])
  | cs => readAfterKey .none cs

end Directive

/-! ## Faults -/

/-- Why values cannot be written into a template. -/
inductive TemplateFault where
  | notEnough
  | leftOver
  | incomplete
  | incompleteKey
  | noMapping
  | unknownKey (key : String)
  | extentNotInteger
  | extentBeyondRange
  | widthTooBig
  | precisionTooBig
  /-- A precision that no integer can be written with. -/
  | tooManyDigits
  /-- A width that no text can have. -/
  | tooWide
  | unknownConversion (c : Char) (index : Nat)
  | notNumber (conversion : Char) (kind : Config.Kind)
  | notInteger (conversion : Char) (kind : Config.Kind)
  | notDouble (kind : Config.Kind)
  | notCharacter
  | characterOutOfRange
  | undefinedToInteger
  | infiniteToInteger
  | beyondDoubles
  | unwritable
deriving DecidableEq, Repr

/-- Whether a fault lies in the kind of a value or the number of values. -/
def TemplateFault.isOfKind : TemplateFault → Bool
  | .notEnough | .leftOver | .noMapping | .extentNotInteger | .notNumber _ _ | .notInteger _ _
  | .notDouble _ | .notCharacter => true
  | _ => false

/-- Whether a fault lies in a number beyond a range. -/
def TemplateFault.isOverflow : TemplateFault → Bool
  | .extentBeyondRange | .tooManyDigits | .characterOutOfRange | .infiniteToInteger
  | .beyondDoubles => true
  | _ => false

/-- How an unknown conversion is shown: what is not plain ASCII by a question mark. -/
def shownConversion (c : Char) : Char :=
  if 31 ≤ c.toNat && c.toNat ≤ 126 then c else '?'

/-- A code point in hexadecimal digits, without leading noughts. -/
def hexNumeral (n : Nat) : String :=
  String.ofList (Nat.toDigits 16 n)

def TemplateFault.message : TemplateFault → String
  | .notEnough => "not enough arguments for format string"
  | .leftOver => "not all arguments converted during string formatting"
  | .incomplete => "incomplete format"
  | .incompleteKey => "incomplete format key"
  | .noMapping => "format requires a mapping"
  | .unknownKey key => Text.quoted key
  | .extentNotInteger => "* wants int"
  | .extentBeyondRange => "* out of range"
  | .widthTooBig => "width too big"
  | .precisionTooBig => "precision too big"
  | .tooManyDigits => "precision too large"
  | .tooWide => ""
  | .unknownConversion c index =>
      "unsupported format character \x27" ++ String.singleton (shownConversion c) ++ "\x27 (0x" ++
        hexNumeral c.toNat ++ ") at index " ++ toString index
  | .notNumber c kind =>
      "%" ++ String.singleton c ++ " format: a real number is required, not " ++ kind.word
  | .notInteger c kind =>
      "%" ++ String.singleton c ++ " format: an integer is required, not " ++ kind.word
  | .notDouble kind => "must be real number, not " ++ kind.word
  | .notCharacter => "%c requires int or char"
  | .characterOutOfRange => "%c arg not in range(0x110000)"
  | .undefinedToInteger => "cannot convert float NaN to integer"
  | .infiniteToInteger => "cannot convert float infinity to integer"
  | .beyondDoubles => "int too large to convert to float"
  | .unwritable => Decimal.tooLargeToWriteMessage

end Flowmeter.Log
