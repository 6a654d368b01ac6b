import Flowmeter.Decimal.Numeral
import Flowmeter.Text.Pattern

/-!
# Templates of paths

A path that is served may hold parameters: a name in braces, perhaps with a colon and the kind
of what may stand in its place. All else in it stands for itself, braces that hold no parameter
included. A template is read once, when the path is registered; then a kind must be known and a
name given only once.
-/

set_option autoImplicit false

namespace Flowmeter.Web

open Flowmeter.Text

/-- What may stand in the place of a parameter. -/
inductive ParameterKind where
  /-- Anything up to the next slash. -/
  | segment
  /-- Anything but a line feed. -/
  | rest
  | integer
  | decimal
  /-- An identifier of 32 hexadecimal digits in five groups. -/
  | identifier
deriving DecidableEq, Repr

namespace ParameterKind

/-- The kinds by their names. -/
def names : List (String × ParameterKind) :=
  [("str", .segment), ("path", .rest), ("int", .integer), ("float", .decimal),
   ("uuid", .identifier)]

/-- What may stand in the place of a parameter of a kind. -/
def pattern : ParameterKind → Pattern
  | .segment => .many1 (· != '/')
  | .rest => .many (· != '\n')
  | .integer => .many1 isAsciiDigit
  | .decimal =>
      .seq (.many1 isAsciiDigit) (.optional (.seq (.char '.') (.many1 isAsciiDigit)))
  | .identifier =>
      let digits (n : Nat) : Pattern := .times n (.one (fun c => (hexDigitValue? c).isSome))
      let mark : Pattern := .optional (.char '-')
      .all [digits 8, mark, digits 4, mark, digits 4, mark, digits 4, mark, digits 12]

end ParameterKind

/-- A part of a template. -/
inductive TemplatePart where
  | literal (text : List Char)
  | parameter (name : String) (kind : ParameterKind)
deriving DecidableEq, Repr

/-- A template of paths. -/
structure PathTemplate where
  parts : List TemplatePart
deriving DecidableEq, Repr

/-- Why a text is no template. -/
inductive PathTemplateFault where
  | unknownKind (name : String)
  /-- Names that are given twice, in order. -/
  | sameNames (names : List String) (path : String)
deriving DecidableEq, Repr

def PathTemplateFault.message : PathTemplateFault → String
  | .unknownKind name => "Unknown path convertor \x27" ++ name ++ "\x27"
  | .sameNames names path =>
      "Duplicated param name" ++ (if 1 < names.length then "s" else "") ++ " " ++
        ", ".intercalate names ++ " at path " ++ path

namespace PathTemplate

def plain (path : String) : PathTemplate := ⟨[.literal path.toList]⟩

/-! ## Reading templates -/

/-- Whether a character may begin a name. -/
def isNameStart (c : Char) : Bool := c.isAlpha || c == '_'

/-- Whether a character may be in a name. -/
def isNameChar (c : Char) : Bool := c.isAlphanum || c == '_'

/-- A name at the beginning of a text, and what follows it. -/
def readName : List Char → Option (List Char × List Char)
  | [] => none
  | c :: cs =>
      if isNameStart c then some (c :: cs.takeWhile isNameChar, cs.dropWhile isNameChar) else none

/-- A parameter behind its opening brace: its name, the name of its kind, and what follows. -/
def readParameter (cs : List Char) : Option (String × String × List Char) := do
  let (name, rest) ← readName cs
  match rest with
  | '\x7d' :: rest => some (String.ofList name, "str", rest)
  | ':' :: rest =>
      let (kind, rest) ← readName rest
      match rest with
      | '\x7d' :: rest => some (String.ofList name, String.ofList kind, rest)
      | _ => none
  | _ => none

/-- The parts of a text, `literal` being the characters before it, the last first. The fuel is
    the length of the text. -/
def readParts : Nat → List Char → List Char → Except PathTemplateFault (List TemplatePart)
  | 0, literal, _ | _, literal, [] => .ok [.literal literal.reverse]
  | fuel + 1, literal, c :: cs =>
      match (if c = '\x7b' then readParameter cs else none) with
      | none => readParts fuel (c :: literal) cs
      | some (name, kindName, rest) =>
          match ParameterKind.names.lookup kindName with
          | none => .error (.unknownKind kindName)
          | some kind => do
              return .literal literal.reverse :: .parameter name kind ::
                (← readParts fuel [] rest)

/-- The names of the parameters among parts. -/
def parameterNames (parts : List TemplatePart) : List String :=
  parts.filterMap fun
    | .parameter name _ => some name
    | .literal _ => none

/-- The names that occur more than once, in order. -/
def repeatedNames (names : List String) : List String :=
  ((names.filter (fun name => 1 < names.count name)).eraseDups).mergeSort (fun a b => a ≤ b)

/-- The template that a text spells. -/
def ofText (text : String) : Except PathTemplateFault PathTemplate := do
  let parts ← readParts text.length [] text.toList
  match repeatedNames (parameterNames parts) with
  | [] => return ⟨parts⟩
  | names => throw (.sameNames names text)

/-! ## Matching -/

/-- What stands in the places of the parameters among parts, if a text matches them; one line
    feed at its end makes no difference. -/
def matchParts : List TemplatePart → List Char → Option (List (ParameterKind × List Char))
  | [], cs => if cs = [] ∨ cs = ['\n'] then some [] else none
  | .literal text :: parts, cs =>
      if text.isPrefixOf cs then matchParts parts (cs.drop text.length) else none
  | .parameter _ kind :: parts, cs =>
      (kind.pattern cs).findSome? fun rest =>
        (matchParts parts rest).map ((kind, cs.take (cs.length - rest.length)) :: ·)

/-- The number of digits of an integer that has too many of them. -/
def oversizedInteger? (places : List (ParameterKind × List Char)) : Option Nat :=
  places.findSome? fun place =>
    if place.1 = .integer ∧ Decimal.digitLimit < place.2.length then some place.2.length else none

/-- Whether a path matches a template. An integer in it may have too many digits. -/
def accepts (t : PathTemplate) (path : String) : Except Decimal.NumeralFault Bool :=
  match matchParts t.parts path.toList with
  | none => .ok false
  | some places =>
      match oversizedInteger? places with
      | some digits => .error (.tooLong digits)
      | none => .ok true

end PathTemplate

end Flowmeter.Web
