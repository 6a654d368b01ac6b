import Flowmeter.Log.Handlers

/-!
# What becomes of a log

The program has one log, which records of all its parts come to. Over time it is set up, maybe
more than once, and handed records. Records from elsewhere come to logs that nobody sets up.
-/

set_option autoImplicit false

namespace Flowmeter.Log

open Flowmeter.Config Flowmeter.Files

/-- A log and what has been written. -/
structure Journal where
  log : Log
  out : Output

/-- What can be done with a log. -/
inductive Act where
  | setUp (config : Config)
  | record (r : Record)

namespace Journal

/-- The journal before anything has been done. -/
def new (files : Tree) : Journal := ⟨initial, ⟨[], files⟩⟩

/-- The log that a record comes to. -/
def hearing (j : Journal) (r : Record) : Log :=
  if r.isOfProgram then j.log else initial

/-- Sets the log up, and what went wrong, if anything. -/
def setUp (j : Journal) (config : Config) : Journal × Option SetupFault :=
  let setup := j.log.setUp config j.out.files
  (⟨setup.log, { j.out with files := setup.files }⟩, setup.fault)

/-- The journal after a record. -/
def take (j : Journal) (r : Record) : Journal :=
  { j with out := (j.hearing r).write r j.out }

def act (j : Journal) : Act → Journal
  | .setUp config => (j.setUp config).1
  | .record r => j.take r

/-- The journal after one thing after the other has been done. -/
def after (j : Journal) (acts : List Act) : Journal :=
  acts.foldl act j

end Journal

end Flowmeter.Log
