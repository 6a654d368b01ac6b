import Flowmeter.Text.Blank
import Flowmeter.Decimal.Numeral
import Flowmeter.Flow.Entry

/-!
# Lines of the connection table

A line is a list of tokens. The first is the network protocol and the third the transport
protocol; every token, these two included, may also be a `key=value` pair of one of six known
keys. The first pair of a key belongs to the original direction and the second to the reply;
nothing else tells the directions apart, and later pairs mean nothing.

A line means what `Line.flow?` makes of it, unless one of its counters has too many digits:
then the line is refused as a whole (`Line.read`), whichever pair of its key the counter is.
-/

set_option autoImplicit false

namespace Flowmeter

open Flowmeter.Text Flowmeter.Decimal

/-! ## Pairs -/

/-- The keys that a line is read for. -/
inductive Field where
  | source
  | destination
  | sourcePort
  | destinationPort
  | packets
  | bytes
deriving DecidableEq, Repr

namespace Field

/-- The key as it is written. -/
def key : Field → String
  | .source => "src"
  | .destination => "dst"
  | .sourcePort => "sport"
  | .destinationPort => "dport"
  | .packets => "packets"
  | .bytes => "bytes"

def all : List Field :=
  [.source, .destination, .sourcePort, .destinationPort, .packets, .bytes]

/-- Whether the values of the key are numbers. -/
def isCounter : Field → Bool
  | .packets | .bytes => true
  | _ => false

/-- The known key that is written so. -/
def ofKey? (cs : List Char) : Option Field :=
  all.find? (fun f => f.key.toList == cs)

end Field

/-- A token of a line. -/
abbrev Token := List Char

/-- The key and value of a token that is a pair of a known key, cut at its first `=`. -/
def Token.pair? (token : Token) : Option (Field × List Char) :=
  match cutFirst (· == '=') token with
  | (_, none) => none
  | (key, some value) => (Field.ofKey? key).map (·, value)

/-- The tokens of a line. -/
abbrev Line := List Token

namespace Line

/-- The tokens of a text without line ends. -/
def ofText (cs : List Char) : Line :=
  words cs

/-- The values that a line gives for a key, in order. -/
def values (line : Line) (f : Field) : List (List Char) :=
  line.filterMap fun token =>
    match Token.pair? token with
    | some (g, value) => if g = f then some value else none
    | none => none

/-- The value of a key in a direction, nought for the original and one for the reply; empty
    if the line does not give it. -/
def text (line : Line) (f : Field) (direction : Nat) : String :=
  String.ofList ((line.values f)[direction]?.getD [])

/-- The number that a key stands for in a direction; nought if the line does not give it. -/
def count (line : Line) (f : Field) (direction : Nat) : Nat :=
  ((line.values f)[direction]?.map counterValue).getD 0

/-- The addresses and ports of a direction. -/
def endpoints (line : Line) (direction : Nat) : Endpoints where
  source := line.text .source direction
  destination := line.text .destination direction
  sourcePort := line.text .sourcePort direction
  destinationPort := line.text .destinationPort direction

/-- What has passed in a direction. -/
def traffic (line : Line) (direction : Nat) : Traffic where
  packets := line.count .packets direction
  bytes := line.count .bytes direction

/-! ## Reading -/

/-- The flow that a line describes: none unless it has a first token and gives both addresses
    of the original direction. -/
def flow? (line : Line) : Option Flow :=
  match line with
  | [] => none
  | network :: _ =>
      let original := line.endpoints 0
      -- a token that is cut from a text is not empty, so only the addresses can be missing
      if network.isEmpty || original.source.isEmpty || original.destination.isEmpty then none
      else some {
        network := String.ofList network
        transport := String.ofList ((line.drop 2).headD [])
        original := original
        reply := line.endpoints 1
        sent := line.traffic 0
        received := line.traffic 1 }

/-- A counter with more digits than are read. -/
structure OversizedCounter where
  digits : Nat
deriving DecidableEq, Repr

def OversizedCounter.message (fault : OversizedCounter) : String :=
  tooLongMessage fault.digits

/-- The first counter of a line that has too many digits. -/
def oversized? (line : Line) : Option OversizedCounter :=
  line.findSome? fun token =>
    match Token.pair? token with
    -- any pair of the key, also a later one that means nothing
    | some (f, value) => if f.isCounter then (oversizedCounter? value).map (⟨·⟩) else none
    | none => none

/-- The flow that a line describes, if any, unless one of its counters is refused. -/
def read (line : Line) : Except OversizedCounter (Option Flow) :=
  match line.oversized? with
  | some fault => .error fault
  | none => .ok line.flow?

end Line

end Flowmeter
