import Flowmeter.Decimal.Notation
import Flowmeter.Files.Fault
import Flowmeter.Flow.Line

/-!
# Failures of a cycle

A cycle fails when the table cannot be read, when it is not read in time, or when no line of
it describes a flow. A failure ends its cycle and nothing else. Its reason is the word by
which failures are counted. What breaks a cycle off without being one of these is not counted:
a counter with too many digits, and a path that never comes before the operating system.
-/

set_option autoImplicit false

namespace Flowmeter.Collector

/-- Why a cycle failed. -/
inductive Failure where
  | unreadable (table : String) (fault : Files.Fault)
  | noFlows (message : String)
  | timedOut (table : String) (limit : Float)
  | stillReading (table : String)

/-- The word by which a failure is counted. -/
def Failure.reason : Failure → String
  | .unreadable _ _ => "source_unavailable"
  | .noFlows _ => "empty_snapshot"
  | .timedOut _ _ => "timeout"
  | .stillReading _ => "timeout"

def Failure.message : Failure → String
  | .unreadable table fault => "cannot read " ++ table ++ ": " ++ fault.message
  | .noFlows message => message
  | .timedOut table limit =>
      "reading " ++ table ++ " exceeded " ++ Decimal.fixedDouble 1 limit ++ "s"
  | .stillReading table => "previous read of " ++ table ++ " is still in progress"

/-- The number with which the operating system says that it has waited too long itself. -/
def timeoutNumber : Nat := 110

/-- The failure of a reading that the operating system has refused, if it has come before it.
    Where the system has waited too long the runtime raises what it raises at its own limit, and
    the two cannot be told apart. -/
def Failure.ofFault? (table : String) (limit : Float) (fault : Files.Fault) : Option Failure :=
  fault.problem.number?.map fun number =>
    if number = timeoutNumber then .timedOut table limit else .unreadable table fault

theorem Failure.ofFault?_eq_none_iff {table : String} {limit : Float} {fault : Files.Fault} :
    ofFault? table limit fault = none ↔ fault.problem.number? = none := by
  rw [ofFault?, Option.map_eq_none_iff]

theorem Failure.eq_of_ofFault? {table : String} {limit : Float} {fault : Files.Fault}
    {failure : Failure} (h : ofFault? table limit fault = some failure) :
    failure = .timedOut table limit ∨ failure = .unreadable table fault := by
  obtain ⟨number, -, rfl⟩ := Option.map_eq_some_iff.mp h
  by_cases hnumber : number = timeoutNumber
  · exact Or.inl (if_pos hnumber)
  · exact Or.inr (if_neg hnumber)

/-- A failure as the status shows it. -/
def Failure.summary (failure : Failure) : String :=
  failure.reason ++ ": " ++ failure.message

/-- What breaks a cycle off and is no failure of it. -/
inductive Breakdown where
  | oversizedCounter (fault : Line.OversizedCounter)
  | badPath (fault : Files.Fault)
deriving DecidableEq, Repr

def Breakdown.message : Breakdown → String
  | .oversizedCounter fault => fault.message
  | .badPath fault => fault.message

/-- How a cycle ends for the one who asked for it. -/
inductive Result where
  | published
  | failed
  | raised (breakdown : Breakdown)
deriving DecidableEq, Repr

end Flowmeter.Collector
