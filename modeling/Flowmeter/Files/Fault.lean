import Flowmeter.Text.Quoted

/-!
# Why a file cannot be used

Most problems are named by the number that the operating system gives them, their description,
and the path. A tree of files has five of them, but a machine may refuse for any other reason
too. Two things keep a path from ever coming before the operating system: a null character, at
which it would end there, and a surrogate that stands for no byte.
-/

set_option autoImplicit false

namespace Flowmeter.Files

open Flowmeter.Text

/-- What can be wrong with a path. -/
inductive Problem where
  | missing
  | alreadyThere
  | isDirectory
  | notDirectory
  | nameTooLong
  /-- Whatever else the operating system may say. -/
  | refused (number : Nat) (reason : String)
  | nullCharacter
  /-- A number of surrogates from a position on, the first of which stands for no byte. -/
  | surrogates (first : CodePoint) (position count : Nat)
deriving DecidableEq, Repr

/-- A problem and the path that has it. -/
structure Fault where
  problem : Problem
  path : List CodePoint
deriving DecidableEq, Repr

/-- The number of a problem, if it has one. -/
def Problem.number? : Problem → Option Nat
  | .missing => some 2
  | .alreadyThere => some 17
  | .isDirectory => some 21
  | .notDirectory => some 20
  | .nameTooLong => some 36
  | .refused number _ => some number
  | .nullCharacter | .surrogates _ _ _ => none

/-- The description of a problem. -/
def Problem.describe : Problem → String
  | .missing => "No such file or directory"
  | .alreadyThere => "File exists"
  | .isDirectory => "Is a directory"
  | .notDirectory => "Not a directory"
  | .nameTooLong => "File name too long"
  | .refused _ reason => reason
  | .nullCharacter => "embedded null byte"
  | .surrogates first position count =>
      let place :=
        if count = 1 then
          "character \x27" ++ String.ofList (codeEscape first.toNat) ++
            s!"\x27 in position {position}"
        else s!"characters in position {position}-{position + count - 1}"
      "\x27utf-8\x27 codec can\x27t encode " ++ place ++ ": surrogates not allowed"

def Fault.message (fault : Fault) : String :=
  match fault.problem.number? with
  | some number =>
      s!"[Errno {number}] " ++ fault.problem.describe ++ ": " ++ quotedPoints fault.path
  | none => fault.problem.describe

end Flowmeter.Files
