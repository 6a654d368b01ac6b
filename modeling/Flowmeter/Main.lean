import Flowmeter.Program
import Std.Time

/-!
# The command

One run of the program among the files of the machine. The files that a run looks at are
taken into a tree beforehand, and those that it has changed are written back when it has
ended; everything between is `Program.run`.
-/

set_option autoImplicit false

namespace Flowmeter.Command

open Flowmeter.Config Flowmeter.Files Flowmeter.CommandLine

/-- The tree with the file that the machine has under a path, if it has one. -/
def fetch (tree : Tree) (path : Path) : IO Tree := do
  try
    let bytes ← IO.FS.readBinFile path.toText
    match tree.makeDirectory path.parent, path.names.getLast? with
    | (tree, .ok names), some name => return tree.set (.file bytes.toList) (names ++ [name])
    | _, _ => return tree
  catch _ => return tree

/-- The tree with the files that the machine has under paths. -/
def fetchAll (tree : Tree) (paths : List Path) : IO Tree :=
  paths.foldlM fetch tree

def noFiles : Tree := .directory [(Name.ofString "/", .directory [])]

/-- The variables that are set. -/
def environment : IO Environment := do
  let names := fileVariable :: settingVariables.map Prod.fst
  let values ← names.mapM fun name => do return (name, ← IO.getEnv name)
  return values.filterMap fun (name, value) => value.map fun v => (name, v)

/-- The path of the configuration file. -/
def configPaths (options : Options) (environment : Environment) : List Path :=
  match Program.configPath options.configFile with
  | .ok path => ((path <|> environment.lookup fileVariable).map Path.ofText).toList
  | .error _ => []

/-- The files that an exporter looks at. -/
def exporterPaths (exporter : Exporter) : List Path :=
  let logs :=
    match (Log.directoryOf exporter.config).path with
    | .error _ => []
    | .ok directory =>
        let file (name : String) : Path := directory.join ⟨.here, [Name.ofString name]⟩
        let count := min 99 (Log.RotatingFile.backupsOf (Log.backupCountOf exporter.config))
        file Log.fileName :: (List.range count).map fun i => file s!"{Log.fileName}.{i + 1}"
  [exporter.procfs.accounting, exporter.procfs.table] ++ logs

/-- The path that names in a tree stand for. -/
def pathOfNames : List Name → Path
  | [] => ⟨.here, []⟩
  | name :: names =>
      if name = Name.ofString "/" then ⟨.slash, names⟩ else ⟨.here, name :: names⟩

/-- Whether a tree has a file with these bytes. -/
def holds (tree : Tree) (names : List Name) (bytes : List UInt8) : Bool :=
  match tree.get? names with
  | some (.file old) => old == bytes
  | _ => false

/-- Writes the files back that have changed. -/
def writeBack (before after : Tree) : IO Unit := do
  for (names, bytes) in after.files do
    if !holds before names bytes then
      let path := pathOfNames names
      IO.FS.createDirAll path.parent.toText
      IO.FS.writeBinFile path.toText ⟨bytes.toArray⟩

/-- Shows a report and gives its status. -/
def present (before : Tree) : Except Program.Crash Program.Report → IO UInt32
  | .error crash => do
      IO.eprintln crash.message
      return 1
  | .ok report => do
      writeBack before report.files
      IO.print report.answer
      IO.eprint report.console
      return UInt32.ofNat report.status

/-- Runs the program with arguments. -/
def run (arguments : List String) : IO UInt32 := do
  let environment ← environment
  let now ← Std.Time.Timestamp.now
  let second := now.toSecondsSinceUnixEpoch.toInt.toNat
  match Request.ofArguments arguments with
  | .ok (.run options) =>
      let files ← fetchAll noFiles (configPaths options environment)
      match Program.prepare options environment files with
      | .ok (.ok exporter) =>
          let files ← fetchAll noFiles (exporterPaths exporter)
          present files (Program.runExporter exporter files second)
      | _ => present files (Program.run arguments environment files second)
  | _ => present noFiles (Program.run arguments environment noFiles second)

end Flowmeter.Command

def main (arguments : List String) : IO UInt32 :=
  Flowmeter.Command.run arguments
