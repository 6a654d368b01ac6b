import Flowmeter.Log.Fields

/-!
# How records are laid out

A record is one line of text, of fields, or of JSON. The text form sets level and source in
columns and puts an exception on lines of its own; the other two keep a record on one line.
-/

set_option autoImplicit false

namespace Flowmeter.Log

open Flowmeter.Config

/-- How records are laid out. -/
inductive Layout where
  | text
  | fields
  | json
deriving DecidableEq, Repr

/-- The layout that a setting names: text where it names none. -/
def Layout.ofValue : Value → Layout
  | .scalar (.text "logfmt") => .fields
  | .scalar (.text "json") => .json
  | _ => .text

/-! ## Text -/

/-- A text with blanks behind it up to a width. -/
def inColumn (width : Nat) (s : String) : String :=
  s ++ String.ofList (List.replicate (width - s.length) ' ')

def textLine (r : Record) : String :=
  let line := r.time ++ " [" ++ inColumn 8 (levelName r.level) ++ "] " ++ inColumn 40 r.source ++
    " " ++ r.message
  let about :=
    match r.trouble with
    | .none => none
    | .absent => some "NoneType: None"
    | .exception kind text => some (exceptionText kind text)
  match about with
  | none | some "" => line
  | some text => (if line.endsWith "\n" then line else line ++ "\n") ++ text

/-! ## JSON -/

/-- The escapes of JSON with a letter of their own. -/
def jsonLetter? (c : Char) : Option Char :=
  if c = '\n' then some 'n'
  else if c = '\r' then some 'r'
  else if c = '\t' then some 't'
  else if c.toNat = 8 then some 'b'
  else if c.toNat = 12 then some 'f'
  else none

/-- A character of a JSON string. -/
def jsonChar (c : Char) : List Char :=
  if c = '\x22' ∨ c = '\\' then ['\\', c]
  else match jsonLetter? c with
    | some letter => ['\\', letter]
    | none => if c.toNat < 0x20 then '\\' :: 'u' :: Text.hexText 4 c.toNat else [c]

def jsonString (s : String) : String :=
  String.ofList ('\x22' :: (s.toList.flatMap jsonChar ++ ['\x22']))

/-- A record as a JSON object of its fields. -/
def jsonLine (r : Record) : String :=
  "\x7b" ++ ", ".intercalate ((Fields.ofRecord r).map fun field =>
    jsonString field.1 ++ ": " ++ jsonString field.2) ++ "\x7d"

/-- A record as a line. -/
def Layout.line (layout : Layout) (r : Record) : String :=
  match layout with
  | .text => textLine r
  | .fields => String.ofList (Fields.write (Fields.ofRecord r))
  | .json => jsonLine r

end Flowmeter.Log
