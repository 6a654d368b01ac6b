import Flowmeter.Association
import Flowmeter.Calendar
import Flowmeter.Decimal.Notation
import Flowmeter.Decimal.Numeral
import Flowmeter.Text.Blank
import Flowmeter.Text.Quoted

/-!
# Values of settings

A setting is whatever its file says: a scalar, a list, or a mapping whose keys are scalars.
Keys are the same when they are equal as numbers or as texts, so `1`, `1.0` and `true` are one
key and what is no number is never the same as anything; `Scalar.identity` is what they are
compared by.

Collections may hold each other. Those that do make up a loop, and stand in it side by side,
each referring to the others by their numbers; `Value.unfold` takes one of them out of its loop.

`Value.show` is how a message shows a value. It fails on an integer with too many digits, and
on nothing else. A collection inside itself is shown by its brackets alone.
-/

set_option autoImplicit false

namespace Flowmeter.Config

open Flowmeter.Text Flowmeter.Decimal

/-- A value without parts. -/
inductive Scalar where
  | null
  | bool (b : Bool)
  | int (n : Int)
  | float (x : Float)
  | text (s : String)
  /-- A text that is no string, for there are surrogates in it. -/
  | wide (points : List CodePoint)
  | bytes (bs : List UInt8)
  | date (d : Date)
  | instant (t : Instant)

/-- The text of code points. -/
def Scalar.ofPoints (points : List CodePoint) : Scalar :=
  match CodePoint.string? points with
  | some s => .text s
  | none => .wide points

/-- A value of a setting. Pairs and sets have no use here, but a file may hold them. -/
inductive Value where
  | scalar (s : Scalar)
  | list (items : List Value)
  | pair (first second : Value)
  | set (members : List Scalar)
  | map (entries : List (Scalar × Value))
  /-- One of several collections that hold each other. -/
  | loop (members : List Value) (number : Nat)
  /-- In a loop the member of a number, in a document the collection of a number. -/
  | enclosing (number : Nat)

instance : Inhabited Value := ⟨.scalar .null⟩

/-! ## Sameness of keys -/

/-- What keys are compared by. A number is its exact value in units of 2 ^ -1074. -/
inductive Identity where
  | null
  | number (units : Int)
  | infinite (negative : Bool)
  | text (s : String)
  | wide (points : List CodePoint)
  | bytes (bs : List UInt8)
  | date (d : Date)
  | instant (aware : Bool) (microseconds : Int)
deriving DecidableEq

/-- What a scalar is compared by; nothing for what is no number. -/
def Scalar.identity : Scalar → Option Identity
  | .null => some .null
  | .bool b => some (.number (if b then Magnitude.unit else 0))
  | .int n => some (.number (n * Magnitude.unit))
  | .float x =>
      match DoubleView.of x with
      | .nan => none
      | .infinite negative => some (.infinite negative)
      | .finite negative magnitude => some (.number (signed negative magnitude.units))
  | .text s => some (.text s)
  | .wide points => some (.wide points)
  | .bytes bs => some (.bytes bs)
  | .date d => some (.date d)
  | .instant t => some (.instant t.offset.isSome t.microseconds)

/-- Whether two scalars are the same key. -/
def Scalar.same (a b : Scalar) : Bool :=
  match a.identity, b.identity with
  | some i, some j => i = j
  | _, _ => false

instance : BEq Scalar := ⟨Scalar.same⟩

/-! ## Loops -/

/-- A part of a member of a loop, taken out of it. -/
def Value.outside (members : List Value) : Value → Value
  | .enclosing number => .loop members number
  | .pair first second => .pair (first.outside members) (second.outside members)
  | v => v

/-- A value that is not a loop itself. Its parts may be. -/
def Value.unfold : Value → Value
  | .loop members number =>
      match members[number]? with
      | some (.list items) => .list (items.map (Value.outside members))
      | some (.map entries) => .map (entries.map (fun e => (e.1, e.2.outside members)))
      | _ => .scalar .null
  | v => v

/-! ## Kinds -/

/-- The kinds of values, as far as messages tell them apart. -/
inductive Kind where
  | null
  | bool
  | int
  | float
  | text
  | bytes
  | date
  | instant
  | list
  | pair
  | set
  | map
deriving DecidableEq, Repr

/-- The word for a kind in a message. -/
def Kind.word : Kind → String
  | .null => "NoneType"
  | .bool => "bool"
  | .int => "int"
  | .float => "float"
  | .text => "str"
  | .bytes => "bytes"
  | .date => "datetime.date"
  | .instant => "datetime.datetime"
  | .list => "list"
  | .pair => "tuple"
  | .set => "set"
  | .map => "dict"

/-- The last part of the word for a kind. -/
def Kind.shortWord : Kind → String
  | .date => "date"
  | .instant => "datetime"
  | kind => kind.word

/-- The kind of a value. -/
def Value.kind (v : Value) : Kind :=
  match v.unfold with
  | .scalar .null => .null
  | .scalar (.bool _) => .bool
  | .scalar (.int _) => .int
  | .scalar (.float _) => .float
  | .scalar (.text _) | .scalar (.wide _) => .text
  | .scalar (.bytes _) => .bytes
  | .scalar (.date _) => .date
  | .scalar (.instant _) => .instant
  | .list _ => .list
  | .pair _ _ => .pair
  | .set _ => .set
  | .map _ => .map
  | .loop _ _ | .enclosing _ => .null

/-- Whether a value counts as given: not null, false, nought or empty. -/
def Value.isGiven (v : Value) : Bool :=
  match v.unfold with
  | .scalar .null => false
  | .scalar (.bool b) => b
  | .scalar (.int n) => n != 0
  | .scalar (.float x) => x != 0
  | .scalar (.text s) => !s.isEmpty
  | .scalar (.wide _) => true
  | .scalar (.bytes bs) => !bs.isEmpty
  | .scalar (.date _) => true
  | .scalar (.instant _) => true
  | .list items => !items.isEmpty
  | .pair _ _ => true
  | .set members => !members.isEmpty
  | .map entries => !entries.isEmpty
  | .loop _ _ | .enclosing _ => false

namespace Value

/-! ## Shorthands -/

def null : Value := .scalar .null

def bool (b : Bool) : Value := .scalar (.bool b)

def int (n : Int) : Value := .scalar (.int n)

def float (x : Float) : Value := .scalar (.float x)

def text (s : String) : Value := .scalar (.text s)

def record (entries : List (String × Value)) : Value :=
  .map (entries.map (fun e => (.text e.1, e.2)))

end Value

/-! ## How a message shows a value -/

def commaSeparated (items : List String) : String :=
  ", ".intercalate items

/-- How a message shows a date. -/
def showDate (d : Date) : String :=
  s!"datetime.date({d.year}, {d.month}, {d.day})"

/-- How a message shows an offset from universal time. -/
def showOffset (seconds : Int) : String :=
  if seconds = 0 then "datetime.timezone.utc"
  else "datetime.timezone(" ++ showSpan seconds ++ ")"

/-- How a message shows an instant: without the parts of the time that are nought at its
    end. -/
def showInstant (t : Instant) : String :=
  let parts := [t.date.year, t.date.month, t.date.day, t.hour, t.minute] ++
    (if t.microsecond ≠ 0 then [t.second, t.microsecond]
     else if t.second ≠ 0 then [t.second] else [])
  let offset :=
    match t.offset with
    | none => []
    | some seconds => ["tzinfo=" ++ showOffset seconds]
  "datetime.datetime(" ++ commaSeparated (parts.map toString ++ offset) ++ ")"

/-- How a message shows a scalar. -/
def Scalar.show : Scalar → Except NumeralFault String
  | .null => .ok "None"
  | .bool b => .ok (if b then "True" else "False")
  | .int n => writeInteger n
  | .float x => .ok (writeDouble x)
  | .text s => .ok (quoted s)
  | .wide points => .ok (quotedPoints points)
  | .bytes bs => .ok (quotedBytes bs)
  | .date d => .ok (showDate d)
  | .instant t => .ok (showInstant t)

/-- A piece of a shown value: characters, or in a loop the member of a number. -/
inductive Piece where
  | text (s : String)
  | enclosing (number : Nat)

/-- Pieces with commas between them, in brackets. -/
def Piece.bracketed (left right : String) (parts : List (List Piece)) : List Piece :=
  .text left :: (joinWith [.text ", "] parts ++ [.text right])

/-- How a message shows a collection inside itself. -/
def Kind.ellipsis : Kind → String
  | .list => "[...]"
  | _ => "\x7b...\x7d"

/-- How a message shows a member of a loop, given the pieces of all members, those around it
    being `around`. The fuel bounds how many are. -/
def showMember (members : List (Kind × List Piece)) : Nat → List Nat → Nat → String
  | 0, _, _ => ""
  | fuel + 1, around, number =>
      match members[number]? with
      | none => ""
      | some (kind, pieces) =>
          if around.contains number then kind.ellipsis
          else String.join (pieces.map fun piece =>
            match piece with
            | .text s => s
            | .enclosing inner => showMember members fuel (number :: around) inner)

mutual

/-- The pieces of a shown value. -/
def Value.pieces : Value → Except NumeralFault (List Piece)
  | .scalar s => do return [.text (← s.show)]
  | .list items => do return Piece.bracketed "[" "]" (← Value.piecesOfItems items)
  | .pair first second => do
      return Piece.bracketed "(" ")" [← first.pieces, ← second.pieces]
  | .set members =>
      if members.isEmpty then .ok [.text "set()"]
      else do
        let shown ← members.mapM Scalar.show
        return Piece.bracketed "\x7b" "\x7d" (shown.map (fun s => [.text s]))
  | .map entries => do return Piece.bracketed "\x7b" "\x7d" (← Value.piecesOfEntries entries)
  | .loop members number => do
      let pieces ← Value.piecesOfItems members
      let members := (members.map Value.kind).zip pieces
      return [.text (showMember members (members.length + 1) [] number)]
  | .enclosing number => .ok [.enclosing number]

/-- The pieces of each item of a list. -/
def Value.piecesOfItems : List Value → Except NumeralFault (List (List Piece))
  | [] => .ok []
  | v :: rest => do return (← v.pieces) :: (← Value.piecesOfItems rest)

/-- The pieces of each entry of a mapping. -/
def Value.piecesOfEntries : List (Scalar × Value) → Except NumeralFault (List (List Piece))
  | [] => .ok []
  | (k, v) :: rest => do
      let entry := .text ((← k.show) ++ ": ") :: (← v.pieces)
      return entry :: (← Value.piecesOfEntries rest)

end

/-- How a message shows a value. -/
def Value.show (v : Value) : Except NumeralFault String := do
  let texts := (← v.pieces).map fun piece =>
    match piece with
    | .text s => s
    | .enclosing _ => ""
  return String.join texts

/-- The text of a value: a text as it is, and everything else as a message shows it. -/
def Value.plainText : Value → Except NumeralFault String
  | .scalar (.text s) => .ok s
  | v => v.show

end Flowmeter.Config
