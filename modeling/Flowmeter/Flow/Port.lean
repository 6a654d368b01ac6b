import Flowmeter.Decimal.Numeral

/-!
# Services by destination port

A short and conservative list of well-known ports names the service that a connection uses.
A port may be any text: one that spells no number, or a number outside the list, has an
unknown service, and the port `0`, which stands for a protocol without ports, has none.
-/

set_option autoImplicit false

namespace Flowmeter.Port

/-- The service of a port that the list does not name. -/
def unknownService : String := "unknown"

/-- What a protocol without ports has in place of a service. -/
def noService : String := "na"

/-- The port that stands for a protocol without ports. -/
def noPort : String := "0"

def wellKnown : List (Int × String) :=
  [(20, "ftp"), (21, "ftp"), (22, "ssh"), (23, "telnet"), (25, "smtp"), (53, "dns"),
   (80, "http"), (110, "pop3"), (143, "imap"), (389, "ldap"), (443, "https"), (465, "smtp"),
   (587, "smtp"), (631, "ipp"), (993, "imaps"), (995, "pop3s"), (3306, "mysql"),
   (5432, "postgres"), (6379, "redis"), (9200, "elasticsearch")]

/-- The service that a destination port stands for. -/
def service (port : String) : String :=
  if port.isEmpty then unknownService
  else if port = noPort then noService
  else match Decimal.readInteger port.toList with
    | .error _ => unknownService
    | .ok n => (wellKnown.lookup n).getD unknownService

end Flowmeter.Port
