import Flowmeter.Config.Dotted
import Flowmeter.Decimal.Reading

/-!
# Settings from the environment

Some settings can be given by a variable. A variable that is set counts even if it is empty;
its text is read as a number, as a list between commas, or taken as it is.
-/

set_option autoImplicit false

namespace Flowmeter.Config

open Flowmeter.Text

/-- The items between commas, blanks around them taken off and empty ones left out. -/
def commaList (s : String) : List String :=
  ((pieces (· == ',') s.toList).map (fun item => String.ofList (trim item))).filter
    (fun item => !item.isEmpty)

/-- How the text of a variable is read. -/
inductive Reading where
  | number
  | text
  | list
deriving DecidableEq, Repr

/-- The value of a variable that is to be a number is none. -/
structure NumberFault where
  text : String
deriving DecidableEq, Repr

def NumberFault.message (fault : NumberFault) : String :=
  "could not convert string to float: " ++ quoted fault.text

/-- The value that the text of a variable stands for. -/
def Reading.read (text : String) : Reading → Except NumberFault Value
  | .number =>
      match Decimal.readDouble? text.toList with
      | some x => .ok (.float x)
      | none => .error ⟨text⟩
  | .text => .ok (.text text)
  | .list => .ok (.list ((commaList text).map .text))

/-- The variables, the settings that they give, and how they are read; in this order. -/
def settingVariables : List (String × String × Reading) :=
  [("CONNTRACK_EXPORTER_INTERVAL", "collector.interval", .number),
   ("CONNTRACK_EXPORTER_PROCFS", "path.procfs", .text),
   ("CONNTRACK_EXPORTER_LISTEN_ADDRESS", "web.listen_addresses", .list),
   ("CONNTRACK_EXPORTER_TELEMETRY_PATH", "web.telemetry_path", .text),
   ("CONNTRACK_EXPORTER_LOG_LEVEL", "logging.level", .text),
   ("CONNTRACK_EXPORTER_LOG_FORMAT", "logging.format", .text)]

/-- The variable that names the configuration file. -/
def fileVariable : String := "CONNTRACK_EXPORTER_CONFIG"

/-- The variables that are set, with their texts. -/
abbrev Environment := List (String × String)

/-- The entries with the settings of a list of variables written over them. -/
def applyVariables (environment : Environment) :
    List (String × String × Reading) → List (Scalar × Value) →
      Except NumberFault (List (Scalar × Value))
  | [], entries => .ok entries
  | (variableName, name, reading) :: rest, entries =>
      match environment.lookup variableName with
      | none => applyVariables environment rest entries
      | some text =>
          match reading.read text with
          -- nothing has been written anywhere yet, and the variables after it are not looked at
          | .error fault => .error fault
          | .ok v => applyVariables environment rest (insertAt (keysOf name) v entries)

/-- The entries with the settings of the environment written over them. -/
def applyEnvironment (environment : Environment) (entries : List (Scalar × Value)) :
    Except NumberFault (List (Scalar × Value)) :=
  applyVariables environment settingVariables entries

end Flowmeter.Config
