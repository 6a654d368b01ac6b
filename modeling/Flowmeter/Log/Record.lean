import Flowmeter.Calendar
import Flowmeter.Log.Level
import Flowmeter.Notice

/-!
# Records

A record is one event of a log: when it was made, its level, the part of the program that
made it, its message, and the exception it tells of, if any.
-/

set_option autoImplicit false

namespace Flowmeter.Log

/-- What a record says about an exception. -/
inductive Trouble where
  | none
  /-- An exception was asked for and there was none. -/
  | absent
  | exception (kind : String) (text : String)
deriving DecidableEq, Repr

/-- The name of the program. The names of its parts are this one with a dot and more behind. -/
def programName : String := "conntrack_exporter"

/-- One event of a log. Its time is in whole seconds since 1970 in universal time. -/
structure Record where
  second : Int
  level : Int
  source : String
  message : String
  trouble : Trouble
deriving DecidableEq, Repr

/-- Whether a record is from the program or a part of it. -/
def Record.isOfProgram (r : Record) : Bool :=
  r.source = programName || (programName ++ ".").toList.isPrefixOf r.source.toList

/-- The text about an exception: its kind and, if it has one, its text. -/
def exceptionText (kind text : String) : String :=
  if text.isEmpty then kind else kind ++ ": " ++ text

/-- The text about the exception that a record tells of. -/
def Record.exception? (r : Record) : Option String :=
  match r.trouble with
  | .exception kind text => some (exceptionText kind text)
  | _ => none

/-- The time of a record as it is written. -/
def Record.time (r : Record) : String :=
  stamp r.second

/-- The record of a notice. -/
def Record.ofNotice (second : Int) (notice : Notice) : Record :=
  ⟨second, notice.severity.rank, notice.source, notice.message, .none⟩

end Flowmeter.Log
