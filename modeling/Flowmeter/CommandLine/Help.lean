import Flowmeter.CommandLine.Flag
import Flowmeter.Text.Blank

/-!
# Help

The help text has the usage, what the program does, and a list of flags with what each does.
Lines are filled greedily up to a width; what follows the first line of an entry is indented
to the column where the entry begins.
-/

set_option autoImplicit false

namespace Flowmeter.CommandLine

/-- The name of the program. -/
def programName : String := "conntrack-exporter"

def description : String := "Prometheus exporter for the kernel connection tracking table"

/-- The width of a line. -/
def lineWidth : Nat := 78

/-- The column in which the text about a flag begins. -/
def helpColumn : Nat := 24

def blanks (n : Nat) : String :=
  String.ofList (List.replicate n ' ')

/-! ## Filling lines -/

/-- Parts with a blank between neighbours, as many on a line as fit into the width. The line
    begun has the parts `line` and takes `used` columns; a new line begins in column
    `indent`. -/
def fillLines (width indent : Nat) : List String → Nat → List String → List String
  | line, _, [] => if line.isEmpty then [] else [" ".intercalate line]
  | [], used, part :: rest => fillLines width indent [part] (used + part.length) rest
  | line, used, part :: rest =>
      if width < used + 1 + part.length then
        " ".intercalate line :: fillLines width indent [part] (indent + part.length) rest
      else fillLines width indent (line ++ [part]) (used + 1 + part.length) rest

/-- Lines with all but the first indented. -/
def hanging (indent : Nat) : List String → List String
  | [] => []
  | first :: rest => first :: rest.map (blanks indent ++ ·)

/-- The lines of a text of words. -/
def wrapped (width : Nat) (text : String) : List String :=
  fillLines width 0 [] 0 ((Text.words text.toList).map String.ofList)

/-! ## Flags -/

/-- What stands for the value of a flag. -/
def valueName (flag : Flag) : String :=
  match flag.reader?, flag.setting? with
  | some (.oneOf choices), _ => "\x7b" ++ ",".intercalate choices ++ "\x7d"
  | _, some setting => setting.toUpper
  | _, none => ""

/-- A spelling of a flag with its value. -/
def withValue (flag : Flag) (spelling : String) : String :=
  if flag.takesValue then spelling ++ " " ++ valueName flag else spelling

/-- A flag in the usage. -/
def usagePart (flag : Flag) : String :=
  "[" ++ withValue flag (flag.spellings.headD "") ++ "]"

/-- The lines about a flag. A heading that leaves no room stands on a line of its own. -/
def entryLines (flag : Flag) : List String :=
  let heading := blanks 2 ++ ", ".intercalate (flag.spellings.map (withValue flag))
  let text := wrapped (lineWidth - helpColumn) flag.help
  if heading.length + 2 ≤ helpColumn then
    hanging helpColumn (match text with
      | [] => [heading]
      | first :: rest => (heading ++ blanks (helpColumn - heading.length) ++ first) :: rest)
  else heading :: text.map (blanks helpColumn ++ ·)

/-! ## Texts -/

/-- The lines of the usage. -/
def usageLines : List String :=
  let lead := "usage: "
  let indent := lead.length + programName.length + 1
  match fillLines lineWidth indent [] lead.length
      (programName :: flags.map usagePart) with
  | [] => []
  | first :: rest => hanging indent ((lead ++ first) :: rest)

def helpText : String :=
  "\n".intercalate
    (usageLines ++ ["", description, "", "options:"] ++ flags.flatMap entryLines) ++ "\n"

def versionText (version : String) : String :=
  programName ++ " " ++ version ++ "\n"

/-- What is written about a command line that is refused. -/
def refusalText (message : String) : String :=
  "\n".intercalate (usageLines ++ [programName ++ ": error: " ++ message]) ++ "\n"

end Flowmeter.CommandLine
