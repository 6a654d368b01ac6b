import Flowmeter.Config.Environment
import Flowmeter.Config.Merge
import Flowmeter.Config.Validation
import Flowmeter.Files.Tree
import Flowmeter.Yaml.Document

/-!
# Loading a configuration

Four layers make a configuration, each over the one before: the built-in settings, the file,
the environment, and the settings given on the command line. `layer` lays them over each
other; `Config.loadFrom` finds the file first and checks the result.

A file that is empty or says nothing is a file without settings. The settings may all stand
under one key. The built-in sections are written anew; everything else of a file stays what it
is, so what is given later reaches a mapping with several names under each of them.
-/

set_option autoImplicit false

namespace Flowmeter

open Flowmeter.Config

/-- Settings, and the file they come from, if any. -/
structure Config where
  settings : Value
  path : Option String

namespace Config

/-- Why there is no configuration. -/
inductive LoadFault where
  | missing (path : String)
  | unreadable (fault : Files.Fault)
  | malformed (fault : Yaml.Fault)
  | mismatch (m : Mismatch)
  | badNumber (fault : NumberFault)
  | invalid (fault : Invalid)

def LoadFault.message : LoadFault → String
  | .missing path => "Config file not found: " ++ path
  | .unreadable fault => fault.message
  | .malformed fault => fault.message
  | .mismatch m => m.message
  | .badNumber fault => fault.message
  | .invalid fault => fault.message

/-- The key under which all settings of a file may stand. -/
def envelopeKey : String := "conntrack_exporter"

/-- The settings of a document, the built-in sections among them in the place of their numbers.
    A document that says nothing has none. -/
def settingsOf (document : Document) : Except Mismatch Document := do
  let whole := document.look document.value
  let given := if whole.isGiven then whole else .map []
  let settings ← lookupPart given envelopeKey given
  -- other parts keep their numbers, so that they can still be written to under all their names
  let look (e : Scalar × Value) : Scalar × Value :=
    (e.1, if Association.has e.1 defaults then document.look e.2 else e.2)
  return { document with
    value := match document.look settings with
      | .map entries => .map (entries.map look)
      | v => v }

/-- A document with given settings written into it, in order. Null is no setting. -/
def applyGiven (given : List (String × Value)) (document : Document) : Document :=
  given.foldl
    (fun document g =>
      match g.2 with
      | .scalar .null => document
      | v => document.insert (keysOf g.1) v)
    document

/-- The settings of a file, of the environment and of the command line over the built-in
    ones. -/
def layer (file : Document) (environment : Environment) (given : List (String × Value)) :
    Except LoadFault Document := do
  let merged ← (merge (.map defaults) file.value).mapError .mismatch
  let entries ← (applyEnvironment environment merged.entries).mapError .badNumber
  return applyGiven given { file with value := .map entries }

/-- The settings of a document with the other layers. -/
def layered (document : Document) (environment : Environment)
    (given : List (String × Value)) : Except LoadFault Value := do
  let file ← (settingsOf document).mapError .mismatch
  return (← layer file environment given).resolve

/-- The settings of a document with the other layers, if they are valid. -/
def ofDocument (document : Document) (environment : Environment)
    (given : List (String × Value)) : Except LoadFault Value := do
  let settings ← layered document environment given
  (validate settings).mapError .invalid
  return settings

/-- The document that the bytes of a file hold. -/
def documentOf (bytes : List UInt8) : Except LoadFault Document :=
  (Yaml.read bytes).mapError .malformed

/-- The document in the file of a path. -/
def documentAt (files : Files.Tree) (path : Files.Path) : Except LoadFault Document := do
  if ← (files.exists? path).mapError .unreadable then
    documentOf (← (files.read path).mapError .unreadable)
  else throw (.missing path.toText)

/-- The document in a configuration file. Without a file it says nothing. -/
def documentFrom (files : Files.Tree) : Option Files.Path → Except LoadFault Document
  | none => .ok .null
  | some path => documentAt files path

/-- The path of the configuration file: the one given, else that of the environment, else the
    standard one if there is a file. -/
def filePath (standard : Option Files.Path) (files : Files.Tree) (path : Option String)
    (environment : Environment) : Except LoadFault (Option Files.Path) :=
  match path <|> environment.lookup fileVariable, standard with
  | some name, _ => return some (Files.Path.ofText name)
  | none, none => return none
  | none, some standard => do
      return if ← (files.exists? standard).mapError .unreadable then some standard else none

/-- Loads a configuration from its file, or from none. -/
def loadFrom (standard : Option Files.Path) (files : Files.Tree) (path : Option String)
    (environment : Environment) (given : List (String × Value)) : Except LoadFault Config := do
  let path ← filePath standard files path environment
  let document ← documentFrom files path
  return ⟨← ofDocument document environment given, path.map Files.Path.toText⟩

/-- Loads a configuration where there is no standard file. -/
def load (files : Files.Tree) (path : Option String) (environment : Environment)
    (given : List (String × Value)) : Except LoadFault Config :=
  loadFrom none files path environment given

/-- A configuration of settings. An empty path is none. -/
def ofSettings (settings : Value) (path : Option String) : Config :=
  ⟨settings, path.filter (fun p => !p.isEmpty)⟩

/-- The setting of a dotted name, `default` where there is none. -/
def get (config : Config) (name : String) (default : Value) : Value :=
  (config.settings.find? (keysOf name)).getD default

/-- The settings under a key. -/
def group (config : Config) (key : String) : Except Mismatch Value :=
  lookupPart config.settings key (.map [])

end Config

end Flowmeter
