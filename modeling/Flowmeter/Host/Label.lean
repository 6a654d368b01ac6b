import Flowmeter.Host.Direction
import Flowmeter.Host.Permitted
import Flowmeter.Host.Punycode
import Flowmeter.Text.Composition

/-!
# Labels of hosts

The name of a host is labels with points between them. A label beyond ASCII is written in ASCII
behind a prefix (`toAscii`), and is read back from there (`ofAscii`). It is refused unless it is
a normal form, its hyphens and marks stand where they may, every code point may stand where it
does, and it can be read in one way only.
-/

set_option autoImplicit false

namespace Flowmeter.Host

open Flowmeter.Text

/-- Why a label is refused. Places are counted from one. -/
inductive LabelFault where
  | empty
  | notNormal
  | inwardHyphens
  | outwardHyphen
  | leadingMark
  /-- A code point that no label may hold. -/
  | forbidden (label : List CodePoint) (place n : Nat)
  /-- A code point that may not stand where it does. -/
  | misplaced (label : List CodePoint) (place n : Nat)
  /-- A joiner behind a code point without a name. -/
  | joiner (label : List CodePoint) (place n : Nat)
  | direction (fault : DirectionFault)
  /-- Nothing behind the prefix. -/
  | nothingWritten
  /-- A hyphen at the end of what is written in ASCII. -/
  | trailingHyphen
  /-- Something behind the prefix that writes no text. -/
  | unreadable
  /-- A text that would be written otherwise. -/
  | notCanonical
deriving DecidableEq, Repr

/-- The code point that parts letters. -/
def parter : Nat := 0x200C

/-- Whether a code point parts or joins letters. -/
def isJoiner (n : Nat) : Bool := n == parter || n == 0x200D

/-- How a message names a code point. -/
def codeName (n : Nat) : String :=
  let width := if n < 0x10000 then 4 else if n < 0x100000 then 5 else 6
  "U+" ++ String.ofList ((hexText width n).map Char.toUpper)

def LabelFault.message : LabelFault → String
  | .empty => "Empty Label"
  | .notNormal => "Label must be in Normalization Form C"
  | .inwardHyphens => "Label has disallowed hyphens in 3rd and 4th position"
  | .outwardHyphen => "Label must not start or end with a hyphen"
  | .leadingMark => "Label begins with an illegal combining character"
  | .forbidden label place n =>
      s!"Codepoint {codeName n} at position {place} of " ++ quotedPoints label ++ " not allowed"
  | .misplaced label place n =>
      (if isJoiner n then "Joiner " else "Codepoint ") ++
        s!"{codeName n} not allowed at position {place} in " ++ quotedPoints label
  | .joiner label place n =>
      s!"Unknown codepoint adjacent to joiner {codeName n} at position {place} in " ++
        quotedPoints label
  | .direction fault => fault.message
  | .nothingWritten => "Malformed A-label, no Punycode eligible content found"
  | .trailingHyphen => "A-label must not end with a hyphen"
  | .unreadable => "Invalid A-label"
  | .notCanonical => "A-label is not the canonical Punycode encoding of its U-label"

/-! ## Code points in their places -/

/-- The class of the marks that take a vowel from a letter. -/
def vowelKillerClass : Nat := 9

/-- Whether the nearest of code points that joining does not pass over is one of some ranges. -/
def isJoined (ranges : List (Array (Nat × Nat))) (ns : List Nat) : Bool :=
  (ns.find? (fun n => !CodeTable.contains transparentRanges n)).any
    (fun n => ranges.any (CodeTable.contains · n))

/-- Whether a joiner may stand between code points, the nearest in front on either side. The one
    that joins only follows a mark that takes a vowel; the one that parts also stands between
    letters that would be joined. -/
def mayJoin (parts : Bool) (before after : List Nat) : Bool :=
  before.head?.any (combiningClass · == vowelKillerClass) ||
    (parts && isJoined [leftJoiningRanges, dualJoiningRanges] before &&
      isJoined [rightJoiningRanges, dualJoiningRanges] after)

/-- Code points that are known and have no names of their own. -/
def namelessRanges : Array (Nat × Nat) := CodeTable.ranges ["17000-187F7 18D00-18D08"]

/-- Whether a code point has no name. -/
def isNameless (n : Nat) : Bool :=
  directionOf n == .unknown || CodeTable.contains namelessRanges n

/-- Whether a number is in a range. -/
def isBetween (first last n : Nat) : Bool := first ≤ n && n ≤ last

/-- The first and the last of the two rows of numerals that are not mixed. -/
def arabicIndic : Nat × Nat := (0x660, 0x669)
@[inherit_doc arabicIndic] def extendedArabicIndic : Nat × Nat := (0x6F0, 0x6F9)

/-- Whether a code point that may stand only in some places may stand between others, the
    nearest in front on either side; nothing if it is none of those. -/
def mayStand? (label before after : List Nat) (n : Nat) : Option Bool :=
  let lacks (row : Nat × Nat) : Bool := !label.any (isBetween row.1 row.2)
  if n = 0xB7 then some (before.head? == some 0x6C && after.head? == some 0x6C)
  else if n = 0x375 then some (after.head?.any (CodeTable.contains greekRanges))
  else if n = 0x5F3 ∨ n = 0x5F4 then some (before.head?.any (CodeTable.contains hebrewRanges))
  else if n = 0x30FB then
    some (label.any (fun m => m != 0x30FB && CodeTable.contains japaneseRanges m))
  else if isBetween arabicIndic.1 arabicIndic.2 n then some (lacks extendedArabicIndic)
  else if isBetween extendedArabicIndic.1 extendedArabicIndic.2 n then some (lacks arabicIndic)
  else none

/-- Checks the code points that are left of a label, given those before them, the last in
    front. -/
def checkPlaces (label : List CodePoint) : List Nat → List Nat → Except LabelFault Unit
  | _, [] => .ok ()
  | before, n :: after =>
      let place := before.length + 1
      let verdict : Except LabelFault Unit :=
        if CodeTable.contains permittedRanges n then .ok ()
        else if isJoiner n then
          if before.head?.any isNameless then .error (.joiner label place n)
          else if mayJoin (n == parter) before after then .ok ()
          else .error (.misplaced label place n)
        else match mayStand? (label.map CodePoint.toNat) before after n with
          | some true => .ok ()
          | some false => .error (.misplaced label place n)
          | none => .error (.forbidden label place n)
      match verdict with
      | .error fault => .error fault
      | .ok () => checkPlaces label (n :: before) after

def checkLabel (label : List CodePoint) : Except LabelFault Unit := do
  let ns := label.map CodePoint.toNat
  let hyphen := CodePoint.char '-'
  if label.isEmpty then throw .empty
  if normalForm canonical ns ≠ ns then throw .notNormal
  if (label.drop 2).take 2 = [hyphen, hyphen] then throw .inwardHyphens
  if label.head? = some hyphen ∨ label.getLast? = some hyphen then throw .outwardHyphen
  if ns.head?.any (CodeTable.contains markRanges) then throw .leadingMark
  checkPlaces label [] ns
  (checkDirections label).mapError .direction

/-! ## Labels in ASCII -/

/-- What stands before a text that is written in ASCII. -/
def asciiPrefix : List Char := ['x', 'n', '-', '-']

/-- Whether a text has only characters of ASCII. -/
def isAscii (cs : List Char) : Bool :=
  cs.all (fun c => c.toNat < 0x80)

/-- The label that small letters of ASCII write. What stands behind the prefix must be what the
    label is written as. -/
def ofAscii (cs : List Char) : Except LabelFault (List CodePoint) := do
  if !asciiPrefix.isPrefixOf cs then
    checkLabel (cs.map .char)
    return cs.map .char
  else
    let written := cs.drop asciiPrefix.length
    if written.isEmpty then throw .nothingWritten
    if written.getLast? = some '-' then throw .trailingHyphen
    match Punycode.decode written with
    | none => throw .unreadable
    | some ns =>
        let label := ns.filterMap CodePoint.ofNat?
        checkLabel label
        if (label.mapM CodePoint.char?).map Punycode.encode ≠ some written then
          throw .notCanonical
        return label

/-- The most characters of a label in ASCII. -/
def labelLimit : Nat := 63

/-- A label in ASCII, if it is one. -/
def toAscii? (label : List CodePoint) : Option (List Char) := do
  let cs ← label.mapM CodePoint.char?
  let verdict := if isAscii cs then (ofAscii (cs.map Char.toLower)).map (fun _ => ())
    else checkLabel label
  let ascii := if isAscii cs then cs else asciiPrefix ++ Punycode.encode cs
  if verdict.isOk && ascii.length ≤ labelLimit then some ascii else none

/-! ## Names -/

/-- Why a name is refused. -/
inductive NameFault where
  | tooLong
  | label (fault : LabelFault)
deriving DecidableEq, Repr

def NameFault.message : NameFault → String
  | .tooLong => "Domain too long"
  | .label fault => fault.message

/-- The most characters of a name with a point at its end. -/
def nameLimit : Nat := 254

/-- Whether a character parts labels. -/
def isPoint (c : Char) : Bool :=
  c == '.' || c == '\u3002' || c == '\uFF0E' || c == '\uFF61'

/-- The labels of a name, and whether a point ends it. -/
def labelsOf (name : List CodePoint) : List (List CodePoint) × Bool :=
  let labels := pieces (fun p => p.char?.any isPoint) name
  if labels.getLast? = some [] then (labels.dropLast, true) else (labels, false)

/-- A name in ASCII, if it is one. -/
def nameToAscii? (name : List CodePoint) : Option (List Char) := do
  if nameLimit < name.length then none
  else
    let (labels, ended) := labelsOf name
    let ascii ← labels.mapM toAscii?
    let text := joinWith ['.'] (ascii ++ if ended then [[]] else [])
    if text.length ≤ (if ended then nameLimit else nameLimit - 1) then some text else none

/-- The name that a text of ASCII writes. -/
def nameOfAscii (cs : List Char) : Except NameFault (List CodePoint) := do
  if nameLimit < cs.length then throw .tooLong
  let (labels, ended) := labelsOf (cs.map .char)
  let labels ← (labels.mapM fun label => ofAscii (label.map (·.toChar.toLower))).mapError .label
  return joinWith [.char '.'] (labels ++ if ended then [[]] else [])

end Flowmeter.Host
