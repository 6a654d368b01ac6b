import Flowmeter.Config.Value
import Flowmeter.Files.Path

/-!
# Values of the wrong kind

A setting may be of a kind that the operation on it does not know. Each such mismatch is a
cause of its own; its message names the kind that was met, and its category tells whether it
was met in looking something up or in computing with it.
-/

set_option autoImplicit false

namespace Flowmeter.Config

/-- What was asked of a value of the wrong kind. -/
inductive Mismatch where
  /-- A named part that the kind does not have. -/
  | noPart (kind : Kind) (part : String)
  /-- A comparison of kinds that have no common order. -/
  | notComparable (operator : String) (left right : Kind)
  /-- A search for a name in something that has no members. -/
  | noMembers (kind : Kind)
  /-- Writing under a name in something that has no places. -/
  | noPlaces (kind : Kind)
  /-- Writing under a name in a list. -/
  | placeNotNumber
  /-- Looking under a name in a text. -/
  | textPlaceNotNumber
  /-- A search in a run of bytes for something else. -/
  | notBytes (kind : Kind)
  /-- Looking at the beginning of a run of bytes for a text. -/
  | bytesBeginning
  /-- Use as a path. -/
  | notPath (kind : Kind)
deriving DecidableEq, Repr

namespace Mismatch

/-- Whether the mismatch is the lack of a part, rather than a misuse of the whole. -/
def isLackOfPart : Mismatch → Bool
  | .noPart _ _ => true
  | _ => false

def message : Mismatch → String
  | .noPart kind part =>
      "\x27" ++ kind.word ++ "\x27 object has no attribute \x27" ++ part ++ "\x27"
  | .notComparable operator left right =>
      "\x27" ++ operator ++ "\x27 not supported between instances of \x27" ++ left.word ++
        "\x27 and \x27" ++ right.word ++ "\x27"
  | .noMembers kind => "argument of type \x27" ++ kind.word ++ "\x27 is not iterable"
  | .noPlaces kind => "\x27" ++ kind.word ++ "\x27 object does not support item assignment"
  | .placeNotNumber => "list indices must be integers or slices, not str"
  | .textPlaceNotNumber => "string indices must be integers, not \x27str\x27"
  | .notBytes kind => "a bytes-like object is required, not \x27" ++ kind.word ++ "\x27"
  | .bytesBeginning => "startswith first arg must be bytes or a tuple of bytes, not str"
  | .notPath .bytes =>
      "argument should be a str object or an os.PathLike object returning str, not " ++
        "<class \x27bytes\x27>"
  | .notPath kind => "expected str, bytes or os.PathLike object, not " ++ kind.shortWord

end Mismatch

/-- The path that a value names. A path is named by a text, and by nothing else. -/
def Value.path : Value → Except Mismatch Files.Path
  | .scalar (.text s) => .ok (Files.Path.ofText s)
  | .scalar (.wide points) => .ok (Files.Path.ofPoints points)
  | v => .error (.notPath v.kind)

end Flowmeter.Config
