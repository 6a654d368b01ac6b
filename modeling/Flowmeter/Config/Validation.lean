import Flowmeter.Config.Mismatch

/-!
# Settings that the program can start with

Five settings are checked before the program starts, in a fixed order, and the first that is
wrong is reported. A section that is missing counts as empty; one that is no mapping cannot
be looked into.
-/

set_option autoImplicit false

namespace Flowmeter.Config

open Flowmeter.Decimal

/-- What is wrong with a configuration. -/
inductive Invalid where
  | mismatch (m : Mismatch)
  /-- A length of time that is no number or not more than nought. -/
  | badSeconds (name : String) (shown : String)
  | badMaxRequests (shown : String)
  | noListenAddresses
  | badFormat (shown : String)
  /-- The value that is wrong has too many digits to be shown. -/
  | unshowable
deriving DecidableEq, Repr

/-- The names of log formats. -/
def logFormats : List String := ["text", "logfmt", "json"]

def Invalid.message : Invalid → String
  | .mismatch m => m.message
  | .badSeconds name shown =>
      "collector." ++ name ++ " must be a positive number of seconds, got " ++ shown
  | .badMaxRequests shown => "web.max_requests must be a non-negative integer, got " ++ shown
  | .noListenAddresses => "web.listen_addresses must be a non-empty list"
  | .badFormat shown =>
      "logging.format must be one of [" ++ commaSeparated (logFormats.map Text.quoted) ++
        "], got " ++ shown
  | .unshowable => tooLargeToWriteMessage

/-- The entry of a mapping, `default` if it is missing. -/
def lookupPart (v : Value) (key : String) (default : Value) : Except Mismatch Value :=
  match v with
  | .map entries => .ok ((entries.lookup (.text key)).getD default)
  | _ => .error (.noPart v.kind "get")

/-- The setting `key` of a section. -/
def lookupSetting (settings : Value) (group key : String) : Except Mismatch Value := do
  lookupPart (← lookupPart settings group (.map [])) key .null

/-- Whether a value is a number more than nought, or no number at all in the sense of
    doubles. -/
def isSeconds : Value → Bool
  | .scalar (.int n) => 0 < n
  | .scalar (.float x) => !(x ≤ 0)
  | _ => false

/-- Whether a value is an integer of at least nought. -/
def isCount : Value → Bool
  | .scalar (.int n) => 0 ≤ n
  | _ => false

/-- Whether a value is a list with items. -/
def isNonEmptyList (v : Value) : Bool :=
  match v.unfold with
  | .list items => !items.isEmpty
  | _ => false

/-- Whether a value names a log format. -/
def isLogFormat : Value → Bool
  | .scalar (.text s) => logFormats.contains s
  | _ => false

/-- Accepts a value or reports it. -/
def require (holds : Bool) (v : Value) (report : String → Invalid) : Except Invalid Unit :=
  if holds then .ok ()
  else match v.show with
    | .ok shown => .error (report shown)
    | .error _ => .error .unshowable

/-- A setting of a section, or why the section cannot be looked into. -/
def setting (settings : Value) (group key : String) : Except Invalid Value :=
  (lookupSetting settings group key).mapError .mismatch

def validate (settings : Value) : Except Invalid Unit := do
  let interval ← setting settings "collector" "interval"
  require (isSeconds interval) interval (.badSeconds "interval")
  let readTimeout ← setting settings "collector" "read_timeout"
  require (isSeconds readTimeout) readTimeout (.badSeconds "read_timeout")
  let maxRequests ← setting settings "web" "max_requests"
  require (isCount maxRequests) maxRequests .badMaxRequests
  let addresses ← setting settings "web" "listen_addresses"
  require (isNonEmptyList addresses) .null (fun _ => .noListenAddresses)
  let format ← setting settings "logging" "format"
  require (isLogFormat format) format .badFormat

end Flowmeter.Config
