import Flowmeter.Accounting
import Flowmeter.Collector.Service
import Flowmeter.Log.Journal
import Flowmeter.Sockets
import Flowmeter.Web.Application

/-!
# The exporter

An exporter is put together from a configuration: a mount point, a collector, and what the web
is to show. It then starts in a fixed order: the log is set up, the accounting switch is
checked, all addresses are listened on, and the collector begins its loop. An address that
cannot be listened on ends it; otherwise it runs until it is told to stop.

Settings that only some part of it looks at may still be of the wrong kind for that part. Such
a fault ends the exporter when that part is reached.
-/

set_option autoImplicit false

namespace Flowmeter

open Flowmeter.Config Flowmeter.Files Flowmeter.Collector

/-- An exporter that has not been started. -/
structure Exporter where
  config : Config
  version : String
  procfs : Procfs
  timing : Timing

namespace Exporter

/-- Why an exporter ends out of turn. -/
inductive Fault where
  | mismatch (m : Mismatch)
  | timing (fault : TimingFault)
  | log (fault : Log.SetupFault)
  | host (fault : Sockets.HostFault)
  | path (fault : Web.PathTemplateFault)

/-- The exporter of a configuration. -/
def ofConfig (config : Config) (version : String) : Except Fault Exporter := do
  let procfs ← (config.get "path.procfs" (.text "/proc")).path.mapError .mismatch
  let timing ← (Timing.ofValues (config.get "collector.interval" (.int 60))
    (config.get "collector.read_timeout" (.int 10))).mapError .timing
  return ⟨config, version, ⟨procfs⟩, timing⟩

def Fault.message : Fault → String
  | .mismatch m => m.message
  | .timing fault => fault.message
  | .log fault => fault.message
  | .host fault => fault.message
  | .path fault => fault.message

/-- Whether the accounting switch is to be turned on. -/
def setsAccounting (e : Exporter) : Bool :=
  (e.config.get "collector.configure_nf_conntrack_acct" (.bool false)).isGiven

/-- The telemetry path as it is written in the configuration. -/
def telemetryPath (e : Exporter) : Value :=
  e.config.get "web.telemetry_path" (.text "/metrics")

/-! ## Addresses -/

/-- The address that a value names. Only texts can be trimmed. -/
def addressPoints : Value → Except Mismatch (List Text.CodePoint)
  | .scalar (.text s) => .ok (Text.CodePoint.ofString s)
  | .scalar (.wide points) => .ok points
  | .scalar (.bytes _) => .error .bytesBeginning
  | v => .error (.noPart v.kind "strip")

/-- Listens on addresses in turn, up to the first that fails. -/
def listenAll (listening : List ListeningSocket) :
    List Value → Except Mismatch (Except Sockets.Fault (List ListeningSocket))
  | [] => .ok (.ok listening)
  | v :: rest => do
      match Sockets.listen listening (← addressPoints v) with
      | .error fault => return .error fault
      | .ok listening => listenAll listening rest

/-- The addresses as they are written, of which none is more than a text. -/
def addressTexts (addresses : List Value) : List String :=
  addresses.filterMap fun
    | .scalar (.text s) => some s
    | _ => none

/-- The addresses of the configuration. -/
def addresses (e : Exporter) : List Value :=
  match (e.config.get "web.listen_addresses" (.list [.text ":9100"])).unfold with
  | .list items => items
  | _ => []

/-! ## Runs -/

/-- What a run has come to: its log, what has been written, and the second it is at. -/
structure Running extends Log.Journal where
  second : Int

def Running.tell (r : Running) (notice : Notice) : Running :=
  { r with toJournal := r.take (Log.Record.ofNotice r.second notice) }

def Running.tellAll (r : Running) (notices : List Notice) : Running :=
  notices.foldl Running.tell r

/-- How a run ends: with a status for the one who started it, and what has been written. -/
structure Ending where
  status : Nat
  out : Log.Output

/-- The notices of a collector that is started, reads the table once, and is stopped. -/
def collectOnce (e : Exporter) (tree : Tree) (now : Nat) : List Notice :=
  let outcome := (tree.read e.procfs.table).map textOf
  let (_, effects) := (Service.new e.procfs.table.toText e.timing).run
    [.start, .wake 0, .finish 0 outcome, .conclude 0 now 0, .stop, .stopped]
  effects.filterMap fun
    | .notice n => some n
    | _ => none

/-- The run of an exporter among files, from a second on, that is told to stop after its first
    cycle. -/
def run (e : Exporter) (files : Tree) (second : Nat) : Except Fault Ending := do
  let (journal, fault) := (Log.Journal.new files).setUp e.config
  if let some fault := fault then throw (.log fault)
  let r : Running := ⟨journal, second⟩
  let r := r.tell (.starting e.version e.procfs.root.toText)
  let (tree, notices) := Accounting.check .ofTree e.procfs e.setsAccounting r.out.files
  let r : Running := { r with out := { r.out with files := tree } }
  let r := r.tellAll notices
  match ← (listenAll [] e.addresses).mapError .mismatch with
  | .error (.host fault) => throw (.host fault)
  | .error fault => return ⟨1, (r.tell (.bindFailed fault.message)).out⟩
  | .ok _ =>
      let served ← (Web.telemetryPathOf e.telemetryPath).mapError .mismatch
      let _ ← (Web.PathTemplate.ofText served).mapError .path
      let path :=
        match e.telemetryPath with
        | .scalar (.text s) => s
        | .scalar (.wide points) => Text.CodePoint.shown points
        | _ => ""
      let r := r.tellAll ((addressTexts e.addresses).map fun text => .listening text path)
      let r := r.tell (.ready e.timing.interval)
      let r := r.tellAll (e.collectOnce r.out.files second)
      return ⟨0, (r.tellAll [.shutdownRequested, .shuttingDown, .stopped]).out⟩

end Exporter

end Flowmeter
