import Flowmeter.Web.Response
import Flowmeter.Web.Url

/-!
# Targets of requests

What a client asks for is a path and a query, at an address if it names one: one that has both
a scheme and a host. Of any other text it drops what stands before the path, begins the path
with one slash, and asks the application itself.

The server reads percent escapes of the path. It takes its own address from the request: the
host as the client names it, if that is the name of a host at all, and otherwise where the
request has gone, for which it has to know the usual port of the scheme.

A response may send the client elsewhere. The client then makes sure that it could go there.
-/

set_option autoImplicit false

namespace Flowmeter.Web

open Flowmeter.Text

/-- Where a request goes: scheme, host and port, a path, percent escapes read, the text of the
    query, if there is one, and that of the fragment. -/
structure Target where
  scheme : String
  host : String
  port : Option Int
  path : String
  query : Option String
  fragment : List Char
deriving DecidableEq, Repr

/-- Why a client does not ask. -/
inductive TargetFault where
  | url (fault : UrlFault)
  /-- A host with characters beyond ASCII from one place to another. -/
  | hostBeyondAscii (points : List CodePoint) (position : Nat)
  | name (fault : Host.NameFault)
deriving DecidableEq, Repr

def TargetFault.message : TargetFault → String
  | .url fault => fault.message
  | .name fault => fault.message
  | .hostBeyondAscii points position =>
      "\x27ascii\x27 codec can\x27t encode " ++
        (match points with
          | [point] =>
              "character \x27" ++ String.ofList (codeEscape point.toNat) ++
                s!"\x27 in position {position}"
          | points => s!"characters in position {position}-{position + points.length - 1}") ++
        ": ordinal not in range(128)"

namespace Target

/-! ## Asking -/

/-- The scheme and the host of the application itself. -/
def ownScheme : String := "http"
@[inherit_doc ownScheme] def ownHost : String := "test"

/-- A host as it stands before a port. -/
def bracketed (host : List CodePoint) : List CodePoint :=
  if host.contains (.char ':') then .char '[' :: host ++ [.char ']'] else host

/-- The host of an address, which has to be in ASCII. What stands behind the prefix of names
    beyond ASCII must be such a name. -/
def hostOf (url : Url) : Except TargetFault String := do
  let isBeyond (point : CodePoint) : Bool := 0x7F < point.toNat
  let host := bracketed url.host
  let position := host.findIdx isBeyond
  if position < host.length then
    throw (.hostBeyondAscii ((host.drop position).takeWhile isBeyond) position)
  let cs := url.host.map CodePoint.toChar
  if Host.asciiPrefix.isPrefixOf cs then
    let _ ← (Host.nameOfAscii cs).mapError .name
  return String.ofList cs

/-- The path and the query that are asked of the application itself. -/
def merge (url : Url) : Except TargetFault Url := do
  let path := '/' :: url.path.dropWhile (· == '/')
  (Url.checkPart .path path).mapError .url
  (Url.checkPart .query (url.query.getD [])).mapError .url
  return { url with
    scheme := ownScheme
    host := CodePoint.ofString ownHost
    port := none
    path := Url.plainPath '/' '.' path
    fragment := none }

/-- The target that a client makes of a text. -/
def ofPoints (points : List CodePoint) : Except TargetFault Target := do
  let url ← (Url.ofPoints points).mapError .url
  let url ← if url.isAbsolute then pure url else merge url
  let host ← hostOf url
  let path := if url.path.isEmpty then ['/'] else url.path
  return {
    scheme := url.scheme
    host := host
    port := url.port
    path := String.ofList (Url.unescaped path)
    query := url.query.map String.ofList
    fragment := Url.unescaped (url.fragment.getD []) }

/-! ## Being asked -/

/-- Whether a text can be a host as a client names it, without brackets. -/
def isNamedHost (cs : List Char) : Bool :=
  !cs.isEmpty && cs.all (Url.isPlain "-._~!$&\x27()*+,;=%")

/-- Whether a text can be a number of an interface as a client names it. -/
def isNamedNumber (cs : List Char) : Bool :=
  cs.contains ':' && cs.all (fun c => (hexDigitValue? c).isSome || c == ':' || c == '.')

/-- A port that has to be named. -/
def portText (port : Option Int) : String :=
  (port.map (fun n => s!":{n}")).getD ""

/-- The host and the port of a target. -/
def authority (t : Target) : String :=
  CodePoint.shown (bracketed (CodePoint.ofString t.host)) ++ portText t.port

/-- The last port that a server expects. -/
def lastPort : Int := 65535

/-- The host of a target as the server is told of it: a name beyond ASCII as it reads. -/
def toldHost (t : Target) : List CodePoint :=
  let told := CodePoint.ofString t.host
  if Host.asciiPrefix.isPrefixOf t.host.toList then
    (Host.nameOfAscii t.host.toList).toOption.getD told
  else told

/-- Whether a client names the host and the port of a target as a server expects. -/
def isNamed (t : Target) : Bool :=
  (isNamedHost t.host.toList || isNamedNumber t.host.toList) &&
    t.port.all (fun n => 0 ≤ n && n ≤ lastPort)

/-- The usual port of a scheme that a server knows. -/
def knownPort? (scheme : String) : Option Int :=
  if scheme = "ftp" then none else Url.standardPorts.lookup scheme

/-- The address of the application as the request has it, if the server can tell. A port that
    is not given is no usual one. -/
def address? (t : Target) : Option String :=
  let base := t.scheme ++ "://"
  if t.isNamed then some (base ++ t.authority)
  else do
    let usual ← knownPort? t.scheme
    let port := match t.port with
      | some n => if n = usual then "" else portText (some n)
      | none => ":None"
    return base ++ CodePoint.shown (bracketed t.toldHost) ++ port

/-- The path of an address, in which what would end or divide it differently is escaped. -/
def escapePath (path : String) : String :=
  String.ofList (Url.escape (fun c => c != '?' && c != '#' && c != '\\') path.toList)

/-- The path of a target as the server compares it, without tabs and line ends. -/
def comparedPath (t : Target) : String :=
  String.ofList ((escapePath t.path).toList.filter (fun c => c != '\t' && c != '\n' && c != '\r'))

/-! ## Being sent elsewhere -/

/-- Whether a character stands for itself in a location. -/
def isLocationChar : Char → Bool := Url.isPlain "_.-~:/%#?=@[]!$&\x27()*+,;"

/-- The location of another path at an address, with the query of a target. -/
def locationAt (t : Target) (address path : String) : String :=
  let query := ((t.query.filter (!·.isEmpty)).map ("?" ++ ·)).getD ""
  String.ofList (Url.escape isLocationChar (address ++ escapePath path ++ query).toList)

/-- Why a client cannot go where it is sent. -/
inductive LocationFault where
  | url (fault : UrlFault)
  | fragment (fault : UrlFault)
deriving DecidableEq, Repr

def LocationFault.message : LocationFault → String
  | .url fault => "Invalid URL in location header: " ++ fault.message ++ "."
  | .fragment fault => fault.message

/-- What a client makes of a response: it has to be able to go where the response sends it, and
    to ask for the fragment there. -/
def receive (t : Target) (response : Response) : Except LocationFault Response := do
  if let some location := response.location then
    let _ ← (Url.ofPoints (CodePoint.ofString location)).mapError .url
    if !t.fragment.isEmpty then (Url.checkPart .fragment t.fragment).mapError .fragment
  return response

end Target

end Flowmeter.Web
