import Flowmeter.Files.Path
import Flowmeter.Text.Quoted

/-!
# Where the kernel shows its tables

The files of the kernel stand below a mount point. Any directory with the same files below it
will do, so the mount point is a setting.
-/

set_option autoImplicit false

namespace Flowmeter

open Flowmeter.Files

/-- A mount point. -/
structure Procfs where
  root : Path
deriving DecidableEq, Repr

namespace Procfs

/-- The mount point that a text names. -/
def ofText (root : String) : Procfs := ⟨Path.ofText root⟩

/-- The path of a file below the mount point. -/
def path (procfs : Procfs) (name : String) : Path :=
  procfs.root.join (Path.ofText name)

def table (procfs : Procfs) : Path := procfs.path "net/nf_conntrack"

/-- The switch of packet and byte accounting. -/
def accounting (procfs : Procfs) : Path := procfs.path "sys/net/netfilter/nf_conntrack_acct"

/-- The mount point as a message shows it. -/
def describe (procfs : Procfs) : String :=
  "<ProcFS root=" ++ Text.quotedPoints procfs.root.toPoints ++ ">"

end Procfs

end Flowmeter
