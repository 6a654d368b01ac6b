import Flowmeter.CommandLine.Help
import Flowmeter.CommandLine.Options
import Flowmeter.Exporter

/-!
# The program

The program reads its command line, loads its configuration, and runs an exporter. A command
line that is refused and a configuration that is missing or invalid are reported in the words
of their faults and end the program with status 2; what else can go wrong with a configuration
is a crash, which nothing reports.
-/

set_option autoImplicit false

namespace Flowmeter.Program

open Flowmeter.Config Flowmeter.Files Flowmeter.CommandLine

/-- The version of a program that has not been installed. -/
def version : String := "dev"

/-- What a run of the program has come to. -/
structure Report where
  status : Nat
  answer : String
  console : String
  files : Tree

/-- What nothing reports. -/
inductive Crash where
  | load (fault : LoadFault)
  | exporter (fault : Exporter.Fault)

/-- Whether a fault of loading is reported to the user. -/
def isReported : LoadFault → Bool
  | .missing _ | .badNumber _ => true
  | .malformed fault => fault.isOfNotation
  | .invalid (.mismatch _) => false
  | .invalid _ => true
  | .unreadable fault => fault.problem = .missing
  | .mismatch _ => false

/-- What is written about a configuration that cannot be used. -/
def loadText (fault : LoadFault) : String :=
  programName ++ ": " ++ fault.message ++ "\n"

/-- The path of the configuration file that is given, if one is. -/
def configPath : Value → Except Mismatch (Option String)
  | .scalar .null => .ok none
  | .scalar (.text s) => .ok (some s)
  | v => .error (.notPath v.kind)

def Crash.message : Crash → String
  | .load fault => fault.message
  | .exporter fault => fault.message

/-- The exporter that options ask for, or the report that there is none. -/
def prepare (options : Options) (environment : Environment) (files : Tree) :
    Except Crash (Except Report Exporter) := do
  let path ← (configPath options.configFile).mapError (fun m => .load (.mismatch m))
  match Config.load files path environment options.given with
  | .error fault =>
      if isReported fault then return .error ⟨2, "", loadText fault, files⟩
      else throw (.load fault)
  | .ok config => return .ok (← (Exporter.ofConfig config version).mapError .exporter)

/-- The report on a run of an exporter. -/
def runExporter (exporter : Exporter) (files : Tree) (second : Nat) : Except Crash Report := do
  let ending ← (exporter.run files second).mapError .exporter
  return ⟨ending.status, "", String.join ending.out.console, ending.out.files⟩

/-- Runs an exporter with options. -/
def runOptions (options : Options) (environment : Environment) (files : Tree) (second : Nat) :
    Except Crash Report := do
  match ← prepare options environment files with
  | .error report => return report
  | .ok exporter => runExporter exporter files second

def run (arguments : List String) (environment : Environment) (files : Tree) (second : Nat) :
    Except Crash Report :=
  match Request.ofArguments arguments with
  | .error fault => .ok ⟨2, "", refusalText fault.message, files⟩
  | .ok .help => .ok ⟨0, helpText, "", files⟩
  | .ok .version => .ok ⟨0, versionText version, "", files⟩
  | .ok (.run options) => runOptions options environment files second

end Flowmeter.Program
