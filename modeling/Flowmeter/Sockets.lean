import Flowmeter.Host.LookUp
import Flowmeter.Host.Preparation
import Flowmeter.Listen

/-!
# Listening sockets

A socket listens on an interface of this machine. A port can be taken once on an interface, and
every interface at once shares its port with none; port nought stands for any port that is
free, so it is never taken (`listen`).
-/

set_option autoImplicit false

namespace Flowmeter

/-- Where a socket listens. -/
structure ListeningSocket where
  host : NumericHost
  port : Nat
deriving DecidableEq, Repr

namespace Sockets

/-! ## Hosts -/

/-- Why a text cannot be the name of a host at all. -/
inductive HostFault where
  | notEncodable
  | nullCharacter
deriving DecidableEq, Repr

def HostFault.message : HostFault → String
  | .notEncodable => "encoding of hostname failed"
  | .nullCharacter => "host name must not contain null character"

def encodeHost (host : List Char) : Except HostFault (List Char) :=
  match Host.preparedName? host with
  | none => .error .notEncodable
  | some name => if name.contains '\x00' then .error .nullCharacter else .ok name

/-! ## Listening -/

/-- Why no socket listens. -/
inductive Fault where
  | malformed (fault : ListenAddress.Fault)
  | host (fault : HostFault)
  | lookUp (fault : Host.LookUpFault)
  | taken
  | foreign
  | unfit
deriving DecidableEq, Repr

def Fault.message : Fault → String
  | .malformed fault => fault.message
  | .host fault => fault.message
  | .lookUp fault => fault.message
  | .taken => "[Errno 98] Address already in use"
  | .foreign => "[Errno 99] Cannot assign requested address"
  | .unfit => "[Errno 22] Invalid argument"

/-- Whether two sockets cannot both listen. -/
def clash (a b : ListeningSocket) : Bool :=
  a.port == b.port && a.port != 0 && (a.host.covers b.host || b.host.covers a.host)

/-- The sockets that listen after one more. A host with colons is of the long kind; one that is
    only valid on a link would need to be told which, and none can listen for many machines. -/
def listen (listening : List ListeningSocket) (address : List Text.CodePoint) :
    Except Fault (List ListeningSocket) := do
  let address ← (ListenAddress.ofPoints address).mapError .malformed
  let name ← (encodeHost (address.host.map Text.CodePoint.toChar)).mapError .host
  let host ← (Host.lookUp (address.host.contains (.char ':')) name).mapError .lookUp
  if host.isOfMany || host.isOfLink then throw .unfit
  if !host.isHere then throw .foreign
  let socket : ListeningSocket := ⟨host, address.port⟩
  if listening.any (clash socket) then throw .taken
  return listening ++ [socket]

end Sockets

end Flowmeter
