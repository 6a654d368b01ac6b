import Flowmeter.Collector.Failure

/-!
# Notices

Everything that the program logs is a notice: a cause with what it knows. Level, source and
wording are functions of the cause, so a log can be reasoned about without its texts.
-/

set_option autoImplicit false

namespace Flowmeter

open Flowmeter.Collector

/-- How grave a notice is. -/
inductive Severity where
  | debug
  | info
  | warning
  | error
deriving DecidableEq, Repr

/-- The name of a severity. -/
def Severity.name : Severity → String
  | .debug => "DEBUG"
  | .info => "INFO"
  | .warning => "WARNING"
  | .error => "ERROR"

/-- The rank of a severity among levels. -/
def Severity.rank : Severity → Nat
  | .debug => 10
  | .info => 20
  | .warning => 30
  | .error => 40

/-- What the program logs. -/
inductive Notice where
  | linesSkipped (count : Nat)
  | aggregated (flows keys : Nat)
  | reconciled (keys newKeys active : Nat)
  | published (keys newKeys active : Nat) (milliseconds : Nat)
  | cycleAborted (failure : Failure)
  | cycleRaised
  | overran (interval : Float) (skipped : Int)
  | scrapeRejected (inFlight : Int)
  | starting (version procfs : String)
  | accountingConfigured
  | accountingNotConfigured (cause : String)
  | accountingUnreadable (cause : String)
  | accountingDisabled
  | bindFailed (cause : String)
  | listening (address path : String)
  | ready (interval : Float)
  | shutdownRequested
  | shuttingDown
  | stopped

namespace Notice

/-- How grave a notice is. -/
def severity : Notice → Severity
  | .linesSkipped _ | .aggregated _ _ | .reconciled _ _ _ | .published _ _ _ _ => .debug
  | .cycleAborted _ | .overran _ _ | .scrapeRejected _ | .accountingNotConfigured _
  | .accountingUnreadable _ | .accountingDisabled => .warning
  | .cycleRaised | .bindFailed _ => .error
  | .starting _ _ | .accountingConfigured | .listening _ _ | .ready _ | .shutdownRequested
  | .shuttingDown | .stopped => .info

/-- The part of the program that a notice is from. -/
def source : Notice → String
  | .linesSkipped _ | .aggregated _ _ => "conntrack_exporter.collector.aggregator"
  | .reconciled _ _ _ => "conntrack_exporter.collector.delta"
  | .published _ _ _ _ | .cycleAborted _ | .cycleRaised | .overran _ _ =>
      "conntrack_exporter.services.collector_service"
  | .scrapeRejected _ => "conntrack_exporter.web.server"
  | _ => "conntrack_exporter.app"

def message : Notice → String
  | .linesSkipped count => s!"Skipped {count} unparseable conntrack lines"
  | .aggregated flows keys => s!"Aggregated {flows} conntrack entries into {keys} keys"
  | .reconciled keys newKeys active =>
      s!"Reconciled {keys} keys: {newKeys} new, {active} with traffic"
  | .published keys newKeys active milliseconds =>
      s!"Published {keys} keys ({newKeys} new, {active} with traffic) in " ++
        Decimal.fixedRatio 3 milliseconds 1000 ++ "s"
  | .cycleAborted failure =>
      "Conntrack collection cycle aborted (" ++ failure.reason ++ "): " ++ failure.message
  | .cycleRaised => "Unexpected error in conntrack collection cycle"
  | .overran interval skipped =>
      "Collection cycle overran the " ++ Decimal.fixedDouble 1 interval ++
        s!"s interval; skipping {skipped} tick(s)"
  | .scrapeRejected inFlight => s!"Rejected scrape: {inFlight} requests already in flight"
  | .starting version procfs =>
      "Conntrack exporter " ++ version ++ " starting (procfs=" ++ procfs ++ ")"
  | .accountingConfigured => "Configured nf_conntrack_acct=1"
  | .accountingNotConfigured cause => "Failed to configure nf_conntrack_acct: " ++ cause
  | .accountingUnreadable cause => "Failed to read nf_conntrack_acct: " ++ cause
  | .accountingDisabled =>
      "nf_conntrack_acct is disabled; packets/bytes will be missing and reported as 0 in " ++
        "nf_conntrack"
  | .bindFailed cause => "Failed to bind listen address: " ++ cause
  | .listening address path => "HTTP server listening on " ++ address ++ " (path=" ++ path ++ ")"
  | .ready interval =>
      "Conntrack exporter ready (interval=" ++ Decimal.fixedDouble 0 interval ++ "s)"
  | .shutdownRequested => "Shutdown signal received"
  | .shuttingDown => "Shutting down..."
  | .stopped => "Conntrack exporter stopped"

end Notice

end Flowmeter
