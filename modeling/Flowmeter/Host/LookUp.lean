import Flowmeter.Host.Label
import Flowmeter.Host.Numeric

/-!
# Looking hosts up

A host is spelt as the number of an interface or as a name. The machine has no network, so
nobody answers for a name but the machine itself, which knows what its own name is (`lookUp`).
What cannot be a name is not asked for.
-/

set_option autoImplicit false

namespace Flowmeter.Host

open Flowmeter.Text

/-- Why a text stands for no interface. -/
inductive LookUpFault where
  | otherKind
  | unknown
  | noAnswer
deriving DecidableEq, Repr

def LookUpFault.message : LookUpFault → String
  | .otherKind => "[Errno -9] Address family for hostname not supported"
  | .unknown => "[Errno -2] Name or service not known"
  | .noAnswer => "[Errno -3] Temporary failure in name resolution"

/-! ## Names -/

/-- The name of what reaches every neighbour. -/
def broadcastName : List Char := "<broadcast>".toList

/-- The name that a machine has for itself. -/
def ownName : List Char := "localhost".toList

/-- Whether a character can be in a name that is asked for. -/
def isNameCharacter (c : Char) : Bool := c.isAlphanum || c == '-' || c == '_'

/-- Whether a text can be a label of a name that is asked for. -/
def isNameLabel (cs : List Char) : Bool :=
  !cs.isEmpty && cs.length ≤ labelLimit && cs.all isNameCharacter

/-- Whether a text is written like a short number, whatever its numbers are. -/
def isNumeral (cs : List Char) : Bool := cs.all fun c => isAsciiDigit c || c == '.'

/-- Whether a text is a name that can be asked for. A point that ends it belongs to the name of
    the root, and tells a name from a number. -/
def isName (cs : List Char) : Bool :=
  if cs.getLast? = some '.' then
    cs = ['.'] || (cs.length ≤ nameLimit && cs.head? != some '-' &&
      (pieces (· == '.') cs.dropLast).all isNameLabel)
  else
    cs.length < nameLimit && cs.head? != some '-' && !isNumeral cs &&
      (pieces (· == '.') cs).all isNameLabel

/-! ## Scopes -/

/-- Whether a text behind `%` says where a long number is valid: it is the number of a link, or
    the name of the one link that there is if the number is only valid on a link. -/
def isScope (host : NumericHost) (scope : List Char) : Bool :=
  (NumericHost.ofDigits? 10 scope).any (· < NumericHost.bytesBound 4) ||
    (host.isOfLink && scope == "lo".toList)

/-! ## Looking up -/

/-- The interface that a text stands for. Where the short kind is wanted, a long number that
    wraps no short one is of the other kind. -/
def lookUp (wantsLong : Bool) (cs : List Char) : Except LookUpFault NumericHost :=
  let (number, scope) := cutFirst (· == '%') cs
  if cs = broadcastName then .ok .broadcast
  else match NumericHost.readShort cs, NumericHost.allGroups number with
  | some n, _ => .ok (.short n)
  | none, some groups =>
      match wantsLong, NumericHost.ofGroups groups with
      | false, .long _ => .error .otherKind
      | _, host => if scope.all (isScope host) then .ok host else .error .unknown
  | none, none =>
      if cs.map Char.toLower = ownName then .ok .loopback
      else .error (if isName cs then .noAnswer else .unknown)

end Flowmeter.Host
