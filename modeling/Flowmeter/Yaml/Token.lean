import Flowmeter.Text.CodePoint

/-!
# Tokens

A document is read through its tokens. Those of block style have no characters of their own:
they come from indentation, and the token of a simple key comes from the colon after it.
-/

set_option autoImplicit false

namespace Flowmeter.Yaml

open Flowmeter.Text (CodePoint)

/-- A tag as it is written: a handle, if it has one, and a suffix. -/
structure TagText where
  handle : Option String
  suffix : String
deriving DecidableEq, Repr

/-- What a directive says. -/
inductive Directive where
  | version (major minor : Nat)
  | tag (handle start : String)
  | other
deriving DecidableEq, Repr

/-- A token. -/
inductive Token where
  | streamEnd
  | directive (d : Directive)
  | documentStart
  | documentEnd
  | blockSequenceStart
  | blockMappingStart
  | blockEnd
  | flowSequenceStart
  | flowMappingStart
  | flowSequenceEnd
  | flowMappingEnd
  | blockEntry
  | flowEntry
  | key
  | value
  | alias (name : String)
  | anchor (name : String)
  | tag (text : TagText)
  | scalar (text : List CodePoint) (plain : Bool)
deriving DecidableEq, Repr

end Flowmeter.Yaml
