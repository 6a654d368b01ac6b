import Flowmeter.Association
import Flowmeter.Files.Fault
import Flowmeter.Files.Path
import Flowmeter.Text.Lines
import Flowmeter.Text.Utf8

/-!
# Trees of files

A tree of directories and files, with two operations: reading a file and writing one whole.
Both walk the names of the path from the top, so a name below a file or below nothing is told
apart from a file that is missing. A name that is too long is noticed where it is looked up,
and a path that is too long before the walk begins. A sink takes everything written to it and
reads as empty.

Paths from here begin at the top. Those from a root begin at an entry of its own, `/`, which
no other path can name.
-/

set_option autoImplicit false

namespace Flowmeter.Files

open Flowmeter.Text

/-- A directory with its entries, a file with its bytes, or a sink. -/
inductive Tree where
  | file (bytes : List UInt8)
  | sink
  | directory (entries : List (Name × Tree))

instance : Inhabited Tree := ⟨.directory []⟩

namespace Tree

/-- The entries of a directory; none for anything else. -/
def entries : Tree → List (Name × Tree)
  | .directory es => es
  | _ => []

/-- What stands under a list of names. -/
def get? (tree : Tree) : List Name → Option Tree
  | [] => some tree
  | name :: rest =>
      match tree.entries.lookup name with
      | some next => next.get? rest
      | none => none

/-- The tree with `new` under a list of names whose directories exist. -/
def set (tree : Tree) (new : Tree) : List Name → Tree
  | [] => new
  | name :: rest =>
      let old := (tree.entries.lookup name).getD (.directory [])
      .directory (Association.put name (old.set new rest) tree.entries)

/-- The names at which paths of a root begin. -/
def start (root : Root) : List Name :=
  if root = .here then [] else [Name.ofString "/"]

/-- The names of the directory above. There is none above a root. -/
def above (names : List Name) : List Name :=
  if names = start .slash then names else names.dropLast

/-- How many bytes code points have. A surrogate stands for one byte. -/
def byteSize (points : List CodePoint) : Nat :=
  points.foldl
    (fun size p => size + match p with | .char c => c.utf8Size | .surrogate _ => 1) 0

/-- Whether a code point is a surrogate that stands for a byte beyond ASCII. -/
def standsForByte (p : CodePoint) : Bool :=
  0xDC80 ≤ p.toNat && p.toNat ≤ 0xDCFF

/-- The first surrogate that stands for no byte, with how many surrogates there are from it
    on. -/
def surrogatesOf? (points : List CodePoint) : Option Problem :=
  let isPlain (p : CodePoint) : Bool := p.char?.isSome || standsForByte p
  match points.dropWhile isPlain with
  | [] => none
  | first :: rest =>
      some (.surrogates first (points.takeWhile isPlain).length
        ((rest.takeWhile (·.char?.isNone)).length + 1))

/-- The most bytes that a name may have. -/
def nameLimit : Nat := 255

/-- The most bytes that a path may have. -/
def pathLimit : Nat := 4095

/-- The names of a path with every `..` resolved, `taken` being those already passed: each
    name but the last must stand for a directory. -/
def resolve (tree : Tree) : List Name → List Name → Except Problem (List Name)
  | [], taken => .ok taken
  | name :: rest, taken =>
      match tree.get? taken with
      | some (.directory _) =>
          if nameLimit < byteSize name then .error .nameTooLong
          else tree.resolve rest (if name = Name.up then above taken else taken ++ [name])
      | some _ => .error .notDirectory
      | none => .error .missing

/-- Refuses a path that cannot be looked up in any tree. -/
def checkPath (path : Path) : Except Problem Unit :=
  let points := path.toPoints
  match surrogatesOf? points with
  | some problem => .error problem
  | none =>
      if points.contains (.char '\x00') then .error .nullCharacter
      else if pathLimit < byteSize points then .error .nameTooLong
      else .ok ()

/-- The names that a path stands for. -/
def locate (tree : Tree) (path : Path) : Except Problem (List Name) := do
  checkPath path
  tree.resolve path.names (start path.root)

/-- A problem of a path. -/
def faultOf (path : Path) (problem : Problem) : Fault :=
  ⟨problem, path.toPoints⟩

/-- The bytes of a file. -/
def read (tree : Tree) (path : Path) : Except Fault (List UInt8) :=
  (do
    let names ← tree.locate path
    match tree.get? names with
    | none => .error .missing
    | some (.directory _) => .error .isDirectory
    | some .sink => .ok []
    | some (.file bytes) => .ok bytes : Except Problem (List UInt8)).mapError (faultOf path)

/-- The tree after a file has been written. -/
def write (tree : Tree) (path : Path) (bytes : List UInt8) : Except Fault Tree :=
  (do
    let names ← tree.locate path
    match tree.get? names with
    | some (.directory _) => .error .isDirectory
    | some .sink => .ok tree
    | _ => .ok (tree.set (.file bytes) names) : Except Problem Tree).mapError (faultOf path)

/-- Whether anything stands under a path. Where nothing can, nothing does; only a path that is
    too long has no answer. -/
def exists? (tree : Tree) (path : Path) : Except Fault Bool :=
  match tree.locate path with
  | .ok names => .ok (tree.get? names).isSome
  | .error .nameTooLong => .error (faultOf path .nameTooLong)
  | .error _ => .ok false

/-- Whether a directory stands under a path. -/
def isDirectory (tree : Tree) (path : Path) : Bool :=
  match tree.locate path with
  | .ok names =>
      match tree.get? names with
      | some (.directory _) => true
      | _ => false
  | .error _ => false

/-- The names of a path at which a file stands or can be made. -/
def locateFile (tree : Tree) (path : Path) : Except Fault (List Name) :=
  (do
    let names ← tree.locate path
    match tree.get? names with
    | some (.directory _) => .error .isDirectory
    | _ => .ok names : Except Problem (List Name)).mapError (faultOf path)

/-- The tree without what stands under a list of names. -/
def remove (tree : Tree) : List Name → Tree
  | [] => .directory []
  | [name] => .directory (tree.entries.filter (fun e => e.1 != name))
  | name :: rest =>
      match tree.entries.lookup name with
      | some next => .directory (Association.put name (next.remove rest) tree.entries)
      | none => tree

/-- The tree with what stood under a list of names under another, in the place of what stood
    there. -/
def move (tree : Tree) (source target : List Name) : Tree :=
  match tree.get? source with
  | some moved => (tree.remove source).set moved target
  | none => tree

/-- The tree with a new directory under a path. -/
def makeOne (tree : Tree) (path : Path) : Except Problem Tree := do
  let names ← tree.locate path
  match tree.get? names with
  | some _ => .error .alreadyThere
  | none => .ok (tree.set (.directory []) names)

/-- The tree with the directory of a path, and what went wrong, if anything: the path is given
    by its root and its names, the last first. Where something on the way is missing, the
    directory above is made before. It is no fault if the directory is there already. -/
def makeAll (tree : Tree) (root : Root) : List Name → Tree × Option Fault
  | [] => (tree, none)
  | name :: rest =>
      let path : Path := ⟨root, (name :: rest).reverse⟩
      let settled (tree : Tree) (problem : Problem) : Tree × Option Fault :=
        (tree, if tree.isDirectory path then none else some (faultOf path problem))
      match tree.makeOne path with
      | .ok tree => (tree, none)
      | .error .missing =>
          match tree.makeAll root rest with
          | (tree, some fault) => (tree, some fault)
          | (tree, none) =>
              match tree.makeOne path with
              | .ok tree => (tree, none)
              | .error problem => settled tree problem
      | .error problem => settled tree problem

/-- The tree with the directory of a path, and its names. -/
def makeDirectory (tree : Tree) (path : Path) : Tree × Except Fault (List Name) :=
  match tree.makeAll path.root path.names.reverse with
  | (tree, some fault) => (tree, .error fault)
  | (tree, none) => (tree, (tree.locate path).mapError (faultOf path))

mutual

/-- The files of a tree with their names, those of the tree itself being `names`. -/
def filesFrom (names : List Name) : Tree → List (List Name × List UInt8)
  | .file bytes => [(names, bytes)]
  | .sink => []
  | .directory entries => filesOfEntries names entries

/-- The files of the entries of a directory with their names. -/
def filesOfEntries (names : List Name) :
    List (Name × Tree) → List (List Name × List UInt8)
  | [] => []
  | (name, tree) :: rest => filesFrom (names ++ [name]) tree ++ filesOfEntries names rest

end

/-- The files of a tree with their names. -/
def files (tree : Tree) : List (List Name × List UInt8) :=
  filesFrom [] tree

end Tree

/-- The text of a file: what is malformed reads as U+FFFD, and every line end is a line
    feed. -/
def textOf (bytes : List UInt8) : String :=
  String.ofList (Text.unifyNewlines (Text.Utf8.decodeReplacing bytes))

end Flowmeter.Files
