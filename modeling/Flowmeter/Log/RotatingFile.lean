import Flowmeter.Config.Mismatch
import Flowmeter.Files.Tree

/-!
# Files that are rotated

A log file is not to grow beyond a limit. Before a line that would reach the limit is written,
the file is set aside under its name with `.1`, the files set aside before move on by one, and
the last of them is dropped. Where nothing is to be set aside the file keeps growing.

The limit is compared with the bytes of the file and the characters of the line. A sink has no
bytes and is never set aside.
-/

set_option autoImplicit false

namespace Flowmeter.Log

open Flowmeter.Config Flowmeter.Decimal Flowmeter.Files

/-- A log file: the names of its directory in the tree, its name there, the size at which it is
    set aside, and how many files set aside are kept. -/
structure RotatingFile where
  directory : List Name
  name : Name
  limit : Option Nat
  backups : Nat
deriving DecidableEq, Repr

namespace RotatingFile

/-- The size that a setting gives as the limit; one that is not more than nought is none. -/
def limitOf : Value → Except Mismatch (Option Nat)
  | .scalar (.int n) => .ok (if 0 < n then some n.toNat else none)
  | .scalar (.bool b) => .ok (if b then some 1 else none)
  | .scalar (.float x) =>
      match DoubleView.of x with
      | .finite false m =>
          .ok (if 0 < m.units then some ((m.units + Magnitude.unit - 1) / Magnitude.unit) else none)
      | _ => .ok none
  | v => .error (.notComparable ">" v.kind .int)

/-- The number of files that a setting says to keep. -/
def backupsOf : Value → Nat
  | .scalar (.int n) => n.toNat
  | .scalar (.bool true) => 1
  | _ => 0

/-- The names of the file in the tree. -/
def names (f : RotatingFile) : List Name :=
  f.directory ++ [f.name]

/-- The names of a file set aside. -/
def backup (f : RotatingFile) (number : Nat) : List Name :=
  f.directory ++ [f.name ++ Name.ofString ("." ++ toString number)]

/-- The bytes of the file. -/
def bytes (f : RotatingFile) (tree : Tree) : List UInt8 :=
  match tree.get? f.names with
  | some (.file bytes) => bytes
  | _ => []

/-- The tree after bytes have been added to the file, which is made if it is missing. -/
def append (f : RotatingFile) (added : List UInt8) (tree : Tree) : Tree :=
  match tree.get? f.names with
  | some .sink => tree
  | _ => tree.set (.file (f.bytes tree ++ added)) f.names

/-- The tree after the first `count` files set aside have moved on by one, the last first. -/
def shift (f : RotatingFile) : Nat → Tree → Tree
  | 0, tree => tree
  | count + 1, tree => f.shift count (tree.move (f.backup (count + 1)) (f.backup (count + 2)))

/-- The tree after the file has been set aside. -/
def rotate (f : RotatingFile) (tree : Tree) : Tree :=
  if f.backups = 0 then tree
  -- those set aside make room first, and an empty file takes the place of the one that moves
  else f.append [] ((f.shift (f.backups - 1) tree).move f.names (f.backup 1))

/-- Whether a line reaches the limit. -/
def reachesLimit (f : RotatingFile) (line : String) (tree : Tree) : Bool :=
  match tree.get? f.names, f.limit with
  | some .sink, _ | _, none => false
  | _, some limit => limit ≤ (f.bytes tree).length + line.length

/-- The tree after a line, its line feed included, has been written. -/
def write (f : RotatingFile) (line : String) (tree : Tree) : Tree :=
  f.append (Text.Utf8.encode line) (if f.reachesLimit line tree then f.rotate tree else tree)

end RotatingFile

end Flowmeter.Log
