import Flowmeter.Config.Value
import Flowmeter.Decimal.Reading

/-!
# Flags

A flag of the command line has one or two spellings and says what it does: show something and
end, turn a setting on, set it, or add to it. A flag that sets a setting reads its value from
a text; the dotted name of the setting belongs to the flag.
-/

set_option autoImplicit false

namespace Flowmeter.CommandLine

open Flowmeter.Config Flowmeter.Decimal Flowmeter.Text

/-- How the value of a flag is read from its text. -/
inductive Reader where
  | text
  | number
  | integer
  | oneOf (choices : List String)
deriving DecidableEq, Repr

/-- What a flag does. -/
inductive Purpose where
  | showHelp
  | showVersion
  | turnOn (setting : String)
  | set (setting : String) (reader : Reader)
  | add (setting : String) (reader : Reader)
deriving DecidableEq, Repr

/-- A flag. -/
structure Flag where
  spellings : List String
  purpose : Purpose
  help : String
deriving DecidableEq, Repr

namespace Flag

/-- The setting that a flag is about. -/
def setting? (flag : Flag) : Option String :=
  match flag.purpose with
  | .showHelp | .showVersion => none
  | .turnOn setting | .set setting _ | .add setting _ => some setting

/-- How the value of a flag is read, if it takes one. -/
def reader? (flag : Flag) : Option Reader :=
  match flag.purpose with
  | .showHelp | .showVersion | .turnOn _ => none
  | .set _ reader | .add _ reader => some reader

/-- Whether a flag takes a value. -/
def takesValue (flag : Flag) : Bool :=
  flag.reader?.isSome

/-- A flag as messages name it: by all its spellings. -/
def name (flag : Flag) : String :=
  "/".intercalate flag.spellings

end Flag

/-- Why a text is no value of a flag. -/
inductive ReaderFault where
  | noNumber (text : String)
  | noInteger (text : String)
  | noChoice (text : String) (choices : List String)
deriving DecidableEq, Repr

def ReaderFault.message : ReaderFault → String
  | .noNumber text => "invalid float value: " ++ quoted text
  | .noInteger text => "invalid int value: " ++ quoted text
  | .noChoice text choices =>
      "invalid choice: " ++ quoted text ++ " (choose from " ++
        commaSeparated (choices.map quoted) ++ ")"

/-- The value that a text stands for. -/
def Reader.read (text : String) : Reader → Except ReaderFault Value
  | .text => .ok (.text text)
  | .number =>
      match readDouble? text.toList with
      | some x => .ok (.float x)
      | none => .error (.noNumber text)
  | .integer =>
      match readInteger text.toList with
      | .ok n => .ok (.int n)
      | .error _ => .error (.noInteger text)
  | .oneOf choices =>
      if choices.contains text then .ok (.text text) else .error (.noChoice text choices)

/-- The name under which the path of the configuration file is given. -/
def configSetting : String := "config"

/-- The flags of the program, in the order in which help shows them. -/
def flags : List Flag :=
  [⟨["-h", "--help"], .showHelp, "show this help message and exit"⟩,
   ⟨["-c", "--config"], .set configSetting .text,
     "Path to configuration YAML file (default: config/default.yaml if present)"⟩,
   ⟨["--collector.interval"], .set "collector.interval" .number,
     "Seconds between collecting info about connections (default: 60)"⟩,
   ⟨["--configure.nf_conntrack_acct"], .turnOn "collector.configure_nf_conntrack_acct",
     "Set the nf_conntrack_acct sysctl so packets/bytes are recorded"⟩,
   ⟨["--path.procfs"], .set "path.procfs" .text, "procfs mountpoint (default: /proc)"⟩,
   ⟨["--web.telemetry-path"], .set "web.telemetry_path" .text,
     "Path under which to expose metrics (default: /metrics)"⟩,
   ⟨["--web.disable-exporter-metrics"], .turnOn "web.disable_exporter_metrics",
     "Exclude metrics about the exporter itself (conntrack_exporter_*, process_*, python_*)"⟩,
   ⟨["--web.max-requests"], .set "web.max_requests" .integer,
     "Maximum number of parallel scrape requests, 0 disables the limit (default: 40)"⟩,
   ⟨["--web.listen-address"], .add "web.listen_addresses" .text,
     "Address to expose metrics on, repeatable (e.g. :9100 or [::1]:9100)"⟩,
   ⟨["--log.level"], .set "logging.level" (.oneOf ["debug", "info", "warn", "warning", "error"]),
     "Only log messages with the given severity or above (default: info)"⟩,
   ⟨["--log.format"], .set "logging.format" (.oneOf ["logfmt", "json", "text"]),
     "Output format of log messages (default: logfmt)"⟩,
   ⟨["-v", "--version"], .showVersion, "show program\x27s version number and exit"⟩]

end Flowmeter.CommandLine
