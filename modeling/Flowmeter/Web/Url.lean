import Flowmeter.Decimal.Numeral
import Flowmeter.Host.Label
import Flowmeter.Host.Numeric
import Flowmeter.Text.Case
import Flowmeter.Text.Quoted
import Flowmeter.Text.Utf8

/-!
# Addresses of resources

A text is split into a scheme, an authority, a path, a query and a fragment, of which all but
the path may be missing; the authority is split further. Each part is then checked, from left
to right, and written in ASCII: hosts by the rules for hosts, the other parts by percent escapes.
-/

set_option autoImplicit false

namespace Flowmeter.Web

open Flowmeter.Text

/-- The parts of an address. The scheme is in small letters, a missing scheme or host is empty,
    and the path has no dot segments if there is a scheme or an authority. -/
structure Url where
  scheme : String
  host : List CodePoint
  port : Option Int
  path : List Char
  query : Option (List Char)
  fragment : Option (List Char)
deriving DecidableEq, Repr

/-- The parts of an address whose length is checked by itself. -/
inductive UrlPart where
  | path
  | query
  | fragment
deriving DecidableEq, Repr

/-- What a part is called in a message. -/
def UrlPart.name : UrlPart → String
  | .path => "path"
  | .query => "query"
  | .fragment => "fragment"

/-- Why a text is no address. -/
inductive UrlFault where
  | tooLong
  | partTooLong (part : UrlPart)
  | control (c : Char) (position : Nat)
  | controlInPart (part : UrlPart) (c : Char) (position : Nat)
  /-- A path that begins with two slashes after no host. -/
  | slashes
  /-- A path that begins with a colon after no scheme. -/
  | colon
  | badNumber (version : Nat) (host : List CodePoint)
  | badName (host : List CodePoint)
  | badPort (port : List CodePoint)
  /-- A code point that no escape stands for. -/
  | surrogate (point : CodePoint)
deriving DecidableEq, Repr

/-- How a message names a control character. -/
def controlName (c : Char) (position : Nat) : String :=
  quoted (String.singleton c) ++ s!" at position {position}."

def UrlFault.message : UrlFault → String
  | .tooLong => "URL too long"
  | .partTooLong part => "URL component " ++ quoted part.name ++ " too long"
  | .control c position =>
      "Invalid non-printable ASCII character in URL, " ++ controlName c position
  | .controlInPart part c position =>
      s!"Invalid non-printable ASCII character in URL {part.name} component, " ++
        controlName c position
  | .slashes => "Relative URLs cannot have a path starting with \x27//\x27"
  | .colon => "Relative URLs cannot have a path starting with \x27:\x27"
  | .badNumber version host => s!"Invalid IPv{version} address: " ++ quotedPoints host
  | .badName host => "Invalid IDNA hostname: " ++ quotedPoints host
  | .badPort port => "Invalid port: " ++ quotedPoints port
  | .surrogate point =>
      "\x27utf-8\x27 codec can\x27t encode character " ++ quotedPoints [point] ++
        " in position 0: surrogates not allowed"

namespace Url

/-! ## Escapes -/

/-- The bytes of a text in which a percent sign and two hexadecimal digits stand for a byte. -/
def unescape : List Char → List UInt8
  | '%' :: a :: b :: rest =>
      match hexDigitValue? a, hexDigitValue? b with
      | some x, some y => UInt8.ofNat (16 * x + y) :: unescape rest
      | _, _ => Utf8.encode "%" ++ unescape (a :: b :: rest)
  | c :: rest => Utf8.encode (String.singleton c) ++ unescape rest
  | [] => []

/-- The text for which a text with escapes stands. -/
def unescaped (cs : List Char) : List Char :=
  Utf8.decodeReplacing (unescape cs)

/-- Whether a character is a letter or digit of ASCII, or one of those given. -/
def isPlain (others : String) (c : Char) : Bool :=
  c.isAlphanum || others.toList.contains c

/-- A byte as a percent escape. -/
def escapeByte (b : UInt8) : List Char :=
  '%' :: (hexText 2 b.toNat).map Char.toUpper

/-- A text, its characters as percent escapes unless they stand for themselves. -/
def escape (standsForItself : Char → Bool) (cs : List Char) : List Char :=
  cs.flatMap fun c =>
    if standsForItself c then [c] else (Utf8.encode (String.singleton c)).flatMap escapeByte

/-- Whether a character of ASCII is neither a control character nor one of those given. -/
def isShownExcept (others : String) (c : Char) : Bool :=
  0x20 ≤ c.toNat && c.toNat < 0x7F && !others.toList.contains c

/-- Whether a character stands for itself in a path. -/
def isPathChar : Char → Bool := isShownExcept " \x22#<>?\x60\x7b\x7d"

/-- Whether a character stands for itself in a query. -/
def isQueryChar : Char → Bool := isShownExcept " \x22#<>"

/-- Whether a character stands for itself in a fragment. -/
def isFragmentChar : Char → Bool := isShownExcept " \x22<>\x60"

/-- Whether a character stands for itself in the name of a host. -/
def isHostChar : Char → Bool := isPlain "-._~!$&\x27()*+,;=\x22\x60\x7b\x7d%|\\"

/-- The characters of code points, all of which have to be written. -/
def charsOf (points : List CodePoint) : Except UrlFault (List Char) :=
  points.mapM fun
    | .char c => .ok c
    | .surrogate offset => .error (.surrogate (.surrogate offset))

/-! ## Splitting -/

/-- Whether a code point is a given character. -/
def isChar (c : Char) (point : CodePoint) : Bool := point == .char c

/-- The scheme at the beginning of a text and what follows its colon; a colon alone ends a scheme
    of no characters. -/
def takeScheme (points : List CodePoint) : String × List CodePoint :=
  let isLetter (point : CodePoint) : Bool := point.char?.any Char.isAlpha
  let isSchemeChar (point : CodePoint) : Bool := point.char?.any (isPlain "+.-")
  let scheme := if points.head?.any isLetter then points.takeWhile isSchemeChar else []
  match points.drop scheme.length with
  | .char ':' :: rest => (CodePoint.shown scheme, rest)
  | _ => ("", points)

/-- What stands between two slashes and the path, if a text begins with them. -/
def takeAuthority : List CodePoint → List CodePoint × List CodePoint
  | .char '/' :: .char '/' :: rest =>
      (rest.takeWhile (!isChar '/' ·), rest.dropWhile (!isChar '/' ·))
  | points => ([], points)

/-- Who asks, the host, and the port, of an authority. -/
def splitAuthority (points : List CodePoint) :
    List CodePoint × List CodePoint × List CodePoint :=
  let (user, points) := cutLast (isChar '@') points
  let bracketed :=
    if points.head?.any (isChar '[') then
      match cutLast (isChar ']') points with
      | (some inside, rest) => some (inside ++ [.char ']'], rest)
      | (none, _) => none
    else none
  let (host, rest) := bracketed.getD
    (points.takeWhile (!isChar ':' ·), points.dropWhile (!isChar ':' ·))
  (user.getD [], host, if rest.head?.any (isChar ':') then rest.drop 1 else rest)

/-! ## Ports -/

/-- The ports that need not be named. -/
def standardPorts : List (String × Int) :=
  [("ftp", 21), ("http", 80), ("https", 443), ("ws", 80), ("wss", 443)]

/-- The port of a text, if it names one that has to be named. The scheme is as it is written. -/
def readPort (scheme : String) (port : List CodePoint) : Except UrlFault (Option Int) :=
  if port.isEmpty then .ok none
  else match Decimal.readInteger (port.map CodePoint.toChar) with
    | .error _ => .error (.badPort port)
    | .ok n => .ok (if standardPorts.lookup scheme = some n then none else some n)

/-! ## Hosts -/

/-- Whether a host is four numbers with points between them, of whatever size. -/
def looksNumeric (points : List CodePoint) : Bool :=
  let parts := pieces (isChar '.') points
  parts.length == 4 &&
    parts.all (fun part => !part.isEmpty && part.all (·.char?.any isAsciiDigit))

/-- Whether a text names an interface by the long kind of number, perhaps with a scope. -/
def isLongNumber (points : List CodePoint) : Bool :=
  let (number, scope) := cutFirst (isChar '%') points
  (NumericHost.allGroups (number.map CodePoint.toChar)).isSome &&
    scope.all (fun scope => !scope.isEmpty && !scope.any (isChar '%'))

/-- The host as it is written. Only the scope of a number may be beyond ASCII then. -/
def readHost (points : List CodePoint) : Except UrlFault (List CodePoint) :=
  if points.isEmpty then .ok []
  else if looksNumeric points then
    if (NumericHost.readBytes (points.map CodePoint.toChar)).isSome then .ok points
    else .error (.badNumber 4 points)
  else if points.head?.any (isChar '[') && points.getLast?.any (isChar ']') then
    let inside := (points.drop 1).dropLast
    if isLongNumber inside then .ok inside else .error (.badNumber 6 points)
  else
    match points.mapM CodePoint.char? with
    | some cs =>
        if Host.isAscii cs then
          .ok ((escape isHostChar (cs.map Char.toLower)).map CodePoint.char)
        else name
    | none => name
where
  /-- The host as a name beyond ASCII. -/
  name : Except UrlFault (List CodePoint) :=
    match Host.nameToAscii? (smallLetters points) with
    | some cs => .ok (cs.map CodePoint.char)
    | none => .error (.badName points)

/-! ## Paths -/

/-- The segments of a path without dot segments; two dots take back a segment, but never the
    empty one before the first slash. -/
def withoutDots {α : Type} [DecidableEq α] (dot : α) (segments : List (List α)) :
    List (List α) :=
  segments.foldl
    (fun kept segment =>
      if segment = [dot] then kept
      else if segment = [dot, dot] then
        if kept.isEmpty || kept == [[]] then kept else kept.dropLast
      else kept ++ [segment]) []

/-- A path without dot segments. -/
def plainPath {α : Type} [DecidableEq α] (slash dot : α) (path : List α) : List α :=
  joinWith [slash] (withoutDots dot (pieces (· == slash) path))

/-! ## Reading -/

/-- The most characters that an address or a part of one may have. -/
def lengthLimit : Nat := 65536

/-- The first control character of a text, and where it stands. -/
def control? (points : List CodePoint) : Option (Char × Nat) :=
  points.zipIdx.findSome? fun (point, position) =>
    point.char?.bind fun c =>
      if c.toNat < 0x20 || c.toNat = 0x7F then some (c, position) else none

/-- Checks a part of an address by itself. -/
def checkPart (part : UrlPart) (cs : List Char) : Except UrlFault Unit :=
  if lengthLimit < cs.length then .error (.partTooLong part)
  else match control? (cs.map .char) with
    | some (c, position) => .error (.controlInPart part c position)
    | none => .ok ()

/-- The address that a text is. -/
def ofPoints (points : List CodePoint) : Except UrlFault Url := do
  if lengthLimit < points.length then throw .tooLong
  if let some (c, position) := control? points then throw (.control c position)
  let (text, fragment) := cutFirst (isChar '#') points
  let (location, query) := cutFirst (isChar '?') text
  let (scheme, rest) := takeScheme location
  let (authority, path) := takeAuthority rest
  let (user, host, port) := splitAuthority authority
  let _ ← charsOf user
  let host ← readHost host
  let port ← readPort scheme port
  let isBare := scheme.isEmpty && user.isEmpty && host.isEmpty && port.isNone
  if isBare then
    if path.head?.any (isChar '/') && (path.drop 1).head?.any (isChar '/') then throw .slashes
    if path.head?.any (isChar ':') then throw .colon
  let path := if isBare then path else plainPath (.char '/') (.char '.') path
  let path ← charsOf path
  let query ← query.mapM charsOf
  let fragment ← fragment.mapM charsOf
  return {
    scheme := scheme.toLower
    host := host
    port := port
    path := escape isPathChar path
    query := query.map (escape isQueryChar)
    fragment := fragment.map (escape isFragmentChar) }

/-- Whether an address names a scheme and a host. -/
def isAbsolute (url : Url) : Bool :=
  !url.scheme.isEmpty && !url.host.isEmpty

end Url

end Flowmeter.Web
