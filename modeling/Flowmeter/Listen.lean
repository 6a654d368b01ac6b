import Flowmeter.Decimal.Numeral
import Flowmeter.Text.Blank
import Flowmeter.Text.Quoted

/-!
# Addresses to listen on

An address is a host and a port with a colon between them. A host that holds colons itself
stands in brackets; no host means every interface. Addresses are read as code points, for an
escape in a file may put a surrogate into a host.
-/

set_option autoImplicit false

namespace Flowmeter

open Flowmeter.Text

/-- Where to listen. -/
structure ListenAddress where
  host : List CodePoint
  port : Nat
deriving DecidableEq, Repr

namespace ListenAddress

/-- The host that stands for every interface. -/
def everyInterface : List CodePoint := CodePoint.ofString "0.0.0.0"

def maxPort : Nat := 65535

/-- What can be wrong with an address. -/
inductive Problem where
  | badBrackets
  | noPort
  | bareColons
  | badPort
  | portOutOfRange
deriving DecidableEq, Repr

/-- A problem and the address that has it. -/
structure Fault where
  problem : Problem
  address : List CodePoint
deriving DecidableEq, Repr

/-- The description of a problem. -/
def Problem.describe : Problem → String
  | .badBrackets => "invalid listen address"
  | .noPort => "invalid listen address (missing port)"
  | .bareColons => "IPv6 listen address must be bracketed"
  | .badPort => "invalid port in listen address"
  | .portOutOfRange => "port out of range in listen address"

def Fault.message (fault : Fault) : String :=
  fault.problem.describe ++ ": " ++ quotedPoints fault.address

/-- The host and the text of the port. -/
def split : List CodePoint → Except Problem (List CodePoint × List CodePoint)
  | .char '[' :: rest =>
      match cutFirst (· == .char ']') rest with
      | (host, some (.char ':' :: port)) => .ok (host, port)
      | _ => .error .badBrackets
  | points =>
      match cutLast (· == .char ':') points with
      | (none, _) => .error .noPort
      | (some host, port) =>
          if host.contains (.char ':') then .error .bareColons else .ok (host, port)

/-- The port that code points spell. A surrogate among them makes it unreadable. -/
def readPort (points : List CodePoint) : Except Problem Nat :=
  match Decimal.readInteger (points.map CodePoint.toChar) with
  | .error _ => .error .badPort
  | .ok n => if 0 ≤ n ∧ n ≤ maxPort then .ok n.toNat else .error .portOutOfRange

/-- The address of code points without blanks around them. -/
def read (points : List CodePoint) : Except Problem ListenAddress := do
  let (host, port) ← split points
  let port ← readPort port
  return ⟨if host.isEmpty then everyInterface else host, port⟩

/-- Code points without the blanks at their two ends. A surrogate is no blank. -/
def trimmed (points : List CodePoint) : List CodePoint :=
  trimBy (fun point => isBlank point.toChar) points

/-- The address that code points name. -/
def ofPoints (points : List CodePoint) : Except Fault ListenAddress :=
  (read (trimmed points)).mapError (⟨·, trimmed points⟩)

/-- The address that a text names. -/
def ofText (s : String) : Except Fault ListenAddress :=
  ofPoints (CodePoint.ofString s)

end ListenAddress

end Flowmeter
