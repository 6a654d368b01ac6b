import Flowmeter.Decimal.Numeral
import Flowmeter.Files.Tree
import Flowmeter.Notice
import Flowmeter.Procfs

/-!
# The accounting switch

The kernel counts packets and bytes only while a switch is on. The switch is a file that holds
an integer; writing `1` to it asks for counting, and reading it back tells whether that was
heard, for a write may be ignored or lost without a sign. So nothing is believed about a write
that the file itself does not say afterwards.

Files are reached through a `Store`, so all this holds for any way in which reading and
writing may go. A write that fails may have changed something all the same.
-/

set_option autoImplicit false

namespace Flowmeter

open Flowmeter.Files Flowmeter.Text

/-- A place that holds files: `σ` is its state. -/
structure Store (σ : Type) where
  read : σ → Path → Except Files.Fault (List UInt8)
  write : σ → Path → List UInt8 → σ × Except Files.Fault Unit

def Store.ofTree : Store Tree where
  read := Tree.read
  write tree path bytes :=
    match tree.write path bytes with
    | .ok tree => (tree, .ok ())
    | .error fault => (tree, .error fault)

/-- A tree whose files are never changed by writing to them. -/
def Store.ofFrozenTree : Store Tree := ⟨Tree.read, fun tree _ _ => (tree, .ok ())⟩

namespace Accounting

/-- Why the switch cannot be read or set. -/
inductive Fault where
  | file (fault : Files.Fault)
  | empty (path : String)
  | notInteger (path value : String)
  | notSet (path : String) (current : Int)
deriving DecidableEq, Repr

def Fault.message : Fault → String
  | .file fault => fault.message
  | .empty path => path ++ " is empty"
  | .notInteger path value => "invalid " ++ path ++ " value " ++ quoted value
  | .notSet path current => "failed to set " ++ path ++ s!" to 1 (current={current})"

/-- The integer that the text of a switch holds. -/
def valueOf (path : Path) (text : String) : Except Fault Int :=
  let value := trimmed text
  if value.isEmpty then .error (.empty path.toText)
  else match Decimal.readInteger value.toList with
    | .ok n => .ok n
    | .error _ => .error (.notInteger path.toText value)

/-- What is written to a switch to turn it on. -/
def onText : String := "1\n"

section

variable {σ : Type}

/-- The value of the switch. -/
def read (store : Store σ) (procfs : Procfs) (s : σ) : Except Fault Int :=
  match store.read s procfs.accounting with
  | .error fault => .error (.file fault)
  | .ok bytes => valueOf procfs.accounting (textOf bytes)

/-- Refuses any value but one. -/
def requireOn (path : Path) (value : Int) : Except Fault Unit :=
  if value = 1 then .ok () else .error (.notSet path.toText value)

/-- Turns the switch on and reads it back. -/
def configure (store : Store σ) (procfs : Procfs) (s : σ) : σ × Except Fault Unit :=
  match store.write s procfs.accounting (Utf8.encode onText) with
  | (s, .error fault) => (s, .error (.file fault))
  | (s, .ok ()) => (s, (read store procfs s).bind (requireOn procfs.accounting))

/-- The notices about the value of the switch. -/
def readingNotices : Except Fault Int → List Notice
  | .error fault => [.accountingUnreadable fault.message]
  | .ok value => if value = 0 then [.accountingDisabled] else []

/-- The notice about an attempt to turn the switch on. -/
def settingNotice : Except Fault Unit → Notice
  | .error fault => .accountingNotConfigured fault.message
  | .ok () => .accountingConfigured

/-- Turns the switch on if that is asked for, and tells what is wrong with it then. -/
def check (store : Store σ) (procfs : Procfs) (asked : Bool) (s : σ) : σ × List Notice :=
  let (s, notices) :=
    if asked then
      let (s, outcome) := configure store procfs s
      (s, [settingNotice outcome])
    else (s, [])
  (s, notices ++ readingNotices (read store procfs s))

end

end Accounting

end Flowmeter
