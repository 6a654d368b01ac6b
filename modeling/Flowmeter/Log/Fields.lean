import Flowmeter.Log.Record

/-!
# Lines of fields

A record can be written as a line of `key=value` fields. A value stands as it is unless it is
empty or holds a blank, a quotation mark, an equals sign or a line feed: then it stands in
quotation marks, with backslashes, quotation marks and line feeds escaped. So a line never
holds a line feed, and its fields can be told apart.
-/

set_option autoImplicit false

namespace Flowmeter.Log.Fields

/-- Whether a value with this character needs quotation marks. -/
def needsQuotes (c : Char) : Bool :=
  c = ' ' || c = '\t' || c = '\n' || c = '\x22' || c = '='

/-- A character between quotation marks. -/
def escape (c : Char) : List Char :=
  if c = '\\' then ['\\', '\\']
  else if c = '\x22' then ['\\', '\x22']
  else if c = '\n' then ['\\', 'n']
  else [c]

/-- A value as it is written. -/
def writeValue (cs : List Char) : List Char :=
  if cs.isEmpty || cs.any needsQuotes then '\x22' :: (cs.flatMap escape ++ ['\x22']) else cs

/-- A field as it is written. -/
def writeField (field : String × String) : List Char :=
  field.1.toList ++ '=' :: writeValue field.2.toList

/-- A line of fields, a space between neighbours. -/
def write (fields : List (String × String)) : List Char :=
  Text.joinWith [' '] (fields.map writeField)

/-- The fields of a record. -/
def ofRecord (r : Record) : List (String × String) :=
  [("ts", r.time), ("level", (levelName r.level).toLower), ("logger", r.source),
   ("msg", r.message)] ++ (r.exception?.map (fun text => ("exception", text))).toList

end Flowmeter.Log.Fields
