import Flowmeter.Config.Value
import Flowmeter.Text.Case

/-!
# Levels

A record has a level, a number that says how grave it is, and a log takes records from some
level up. Six levels have names, two of them a second one. Two more names are taken by things
that are no levels: the layout of a line, and the styles in which layouts can be written.
-/

set_option autoImplicit false

namespace Flowmeter.Log

open Flowmeter.Config

/-- The names of levels in capitals. A level is shown by the first of its names. -/
def levelNames : List (String × Int) :=
  [("CRITICAL", 50), ("ERROR", 40), ("WARNING", 30), ("INFO", 20), ("DEBUG", 10), ("NOTSET", 0),
   ("FATAL", 50), ("WARN", 30)]

/-- The name of a level. -/
def levelName (level : Int) : String :=
  match levelNames.find? (fun entry => entry.2 == level) with
  | some entry => entry.1
  | none => s!"Level {level}"

/-- The level from which records are taken where nothing else is said. -/
def defaultLevel : Int := 20

/-- The level from which records are taken by a log that says none. -/
def inheritedLevel : Int := 30

/-- A name in capitals that stands for the layout of a line, not for a level, and that
    layout. -/
def lineLayout : String × String :=
  ("BASIC_FORMAT", "%(levelname)s:%(name)s:%(message)s")

/-- A name in capitals that stands for the styles of layouts, and how a message shows them:
    each by its mark, with the layout of a line in that style. -/
def layoutStyles : String × String :=
  ("_STYLES",
   "\x7b\x27%\x27: (<class \x27logging.PercentStyle\x27>, " ++
     "\x27%(levelname)s:%(name)s:%(message)s\x27), " ++
   "\x27\x7b\x27: (<class \x27logging.StrFormatStyle\x27>, " ++
     "\x27\x7blevelname\x7d:\x7bname\x7d:\x7bmessage\x7d\x27), " ++
   "\x27$\x27: (<class \x27logging.StringTemplateStyle\x27>, " ++
     "\x27$\x7blevelname\x7d:$\x7bname\x7d:$\x7bmessage\x7d\x27)\x7d")

/-- Why a setting is no level. -/
inductive LevelFault where
  /-- It names the layout of a line. -/
  | isLayout
  /-- It names the styles of layouts. -/
  | isStyles
  /-- It has too many digits to be shown. -/
  | unshowable
deriving DecidableEq, Repr

def LevelFault.message : LevelFault → String
  | .isLayout => "Unknown level: " ++ Text.quoted lineLayout.2
  | .isStyles => "Level not an integer or a valid string: " ++ layoutStyles.2
  | .unshowable => Decimal.tooLargeToWriteMessage

/-- The level that a setting names; what names none is the default level. -/
def levelOf (v : Value) : Except LevelFault Int :=
  match v.plainText with
  | .error _ => .error .unshowable
  | .ok text =>
      let name := Text.capitals text
      if name = lineLayout.1 then .error .isLayout
      else if name = layoutStyles.1 then .error .isStyles
      else .ok ((levelNames.lookup name).getD defaultLevel)

end Flowmeter.Log
