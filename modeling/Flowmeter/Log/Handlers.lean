import Flowmeter.Config.Load
import Flowmeter.Log.Layout
import Flowmeter.Log.RotatingFile

/-!
# The log of the program

A log takes records from a level up and hands each to all its handlers: the console and, if a
directory is set, a rotated file. Setting it up again takes the handlers away that it has, so no
record is written twice. Setting up can fail at the level, before anything has changed, or at the
file, when the console is already there.

A log that has never been set up shows the bare message of a grave record.
-/

set_option autoImplicit false

namespace Flowmeter

open Flowmeter.Config Flowmeter.Files

namespace Log

/-- Where the lines of a log go. -/
inductive Handler where
  | console (layout : Layout)
  | file (layout : Layout) (target : RotatingFile)
deriving DecidableEq, Repr

/-- What has been written: lines of the console, line feeds included, and files. -/
structure Output where
  console : List String
  files : Tree

/-- The output after a handler has written a record. -/
def Handler.write (r : Log.Record) (out : Output) : Handler → Output
  | .console layout => { out with console := out.console ++ [layout.line r ++ "\n"] }
  | .file layout target => { out with files := target.write (layout.line r ++ "\n") out.files }

/-- Why a log cannot be set up. -/
inductive SetupFault where
  | level (fault : LevelFault)
  | mismatch (m : Mismatch)
  | file (fault : Files.Fault)
deriving DecidableEq, Repr

def SetupFault.message : SetupFault → String
  | .level fault => fault.message
  | .mismatch m => m.message
  | .file fault => fault.message

/-- The name of the log file in its directory. -/
def fileName : String := "conntrack-exporter.log"

/-- The log file in a directory, which is made. -/
def openFile (directory maxBytes backupCount : Value) (files : Tree) :
    Tree × Except SetupFault RotatingFile :=
  match directory.path with
  | .error m => (files, .error (.mismatch m))
  | .ok path =>
      match files.makeDirectory path with
      | (files, .error fault) => (files, .error (.file fault))
      | (files, .ok names) =>
          -- the directory stays made whatever goes wrong from here on
          let place := files.locateFile (path.join (Path.ofText fileName))
          match RotatingFile.limitOf maxBytes, place with
          | .error m, _ => (files, .error (.mismatch m))
          | .ok _, .error fault => (files, .error (.file fault))
          | .ok limit, .ok _ =>
              let file : RotatingFile :=
                ⟨names, Name.ofString fileName, limit, RotatingFile.backupsOf backupCount⟩
              (file.append [] files, .ok file)

end Log

/-- A log: the level that it has been given, nought for none, and its handlers. -/
structure Log where
  level : Int
  handlers : List Log.Handler

namespace Log

/-- The log before it has been set up. -/
def initial : Log := ⟨0, []⟩

/-- The level from which the log takes records. -/
def effectiveLevel (log : Log) : Int :=
  if log.level = 0 then inheritedLevel else log.level

/-- The output after a record. -/
def write (log : Log) (r : Log.Record) (out : Output) : Output :=
  if r.level < log.effectiveLevel then out
  else match log.handlers with
    | [] =>
        if r.level < inheritedLevel then out
        else { out with console := out.console ++ [r.message ++ "\n"] }
    | handlers => handlers.foldl (fun out h => h.write r out) out

/-! ## Setting up -/

/-- The log with one more handler. -/
def addHandler (log : Log) (h : Handler) : Log :=
  { log with handlers := log.handlers ++ [h] }

/-- The log without a handler. -/
def removeHandler (log : Log) (h : Handler) : Log :=
  { log with handlers := log.handlers.erase h }

/-- The log after each handler that it has is taken away in turn. -/
def clear (log : Log) : Log :=
  log.handlers.foldl removeHandler log

/-- A log that has been set up, the files, and what went wrong, if anything. -/
structure Setup where
  log : Log
  files : Tree
  fault : Option SetupFault

/-- The directory of the log file in a configuration. -/
def directoryOf (config : Config) : Value :=
  config.get "logging.directory" .null

/-- How many log files set aside a configuration keeps. -/
def backupCountOf (config : Config) : Value :=
  config.get "logging.backup_count" (.int 5)

/-- How records are laid out in a configuration. -/
def layoutOf (config : Config) : Layout :=
  Layout.ofValue (config.get "logging.format" (.text "logfmt"))

/-- Sets up a log by a configuration. -/
def setUp (log : Log) (config : Config) (files : Tree) : Setup :=
  match levelOf (config.get "logging.level" (.text "info")) with
  | .error fault => ⟨log, files, some (.level fault)⟩
  | .ok level =>
      let layout := layoutOf config
      -- the handlers of before are gone from here on, also if no file can be opened
      let log := ({ log with level } : Log).clear.addHandler (.console layout)
      let directory := directoryOf config
      if directory.isGiven then
        match openFile directory (config.get "logging.max_bytes" (.int 10485760))
            (backupCountOf config) files with
        | (files, .error fault) => ⟨log, files, some fault⟩
        | (files, .ok file) => ⟨log.addHandler (.file layout file), files, none⟩
      else ⟨log, files, none⟩

end Log

end Flowmeter
