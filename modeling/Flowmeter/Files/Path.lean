import Flowmeter.Text.Blank
import Flowmeter.Text.CodePoint

/-!
# Paths

A path is kept as its root and its names, so two spellings that differ in doubled slashes or
in `.` are one path. A name `..` stays: what it means depends on the files. A path that begins
with exactly two slashes is not the same as one that begins with one.

Names are made of code points. Where a name of a machine is no text, surrogates stand for the
bytes that are no characters.
-/

set_option autoImplicit false

namespace Flowmeter.Files

open Flowmeter.Text

/-- Where a path begins. -/
inductive Root where
  | here
  | slash
  | doubleSlash
deriving DecidableEq, Repr

/-- The name of a file or directory. -/
abbrev Name := List CodePoint

namespace Name

/-- The name that a string is. -/
def ofString (s : String) : Name := CodePoint.ofString s

/-- The name as a string; a surrogate reads as U+FFFD. -/
def toText (name : Name) : String := String.ofList (name.map CodePoint.toChar)

/-- What names are kept apart by. -/
def slash : CodePoint := .char '/'

/-- The name of the directory itself. -/
def self : Name := ofString "."

/-- The name of the directory above. -/
def up : Name := ofString ".."

end Name

/-- A root and the names below it. -/
structure Path where
  root : Root
  names : List Name
deriving DecidableEq, Repr

namespace Path

/-- The root that a text begins with, by its leading slashes. -/
def rootOf (points : List CodePoint) : Root :=
  match (points.takeWhile (· == Name.slash)).length with
  | 0 => .here
  | 2 => .doubleSlash
  | _ => .slash

/-- The path that code points spell. -/
def ofPoints (points : List CodePoint) : Path where
  root := rootOf points
  names := (pieces (· == Name.slash) points).filter (fun n => !n.isEmpty && n != Name.self)

/-- The path that a text spells. -/
def ofText (s : String) : Path := ofPoints (CodePoint.ofString s)

/-- The path as it is written; the empty path is `.`. -/
def toPoints (p : Path) : List CodePoint :=
  let names := joinWith [Name.slash] p.names
  match p.root with
  | .here => if p.names.isEmpty then Name.self else names
  | .slash => Name.slash :: names
  | .doubleSlash => Name.slash :: Name.slash :: names

/-- The path as a string; a surrogate reads as U+FFFD. -/
def toText (p : Path) : String := Name.toText p.toPoints

/-- A path below another, unless it begins at a root itself. -/
def join (base p : Path) : Path :=
  if p.root = .here then ⟨base.root, base.names ++ p.names⟩ else p

/-- The path of the directory that holds a path. -/
def parent (p : Path) : Path :=
  ⟨p.root, p.names.dropLast⟩

end Path

end Flowmeter.Files
