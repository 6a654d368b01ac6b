import Flowmeter.Proofs.Accounts.History
import Flowmeter.Proofs.Collector.Tally
import Flowmeter.Proofs.Metrics.Instruments

/-!
# Status and instruments agree

A collector tells how its cycles went in two places that never look at each other: its status,
and the instruments beside the series. Both are written in the same two places, where a cycle
fails and where it publishes. So what these two keep, every step keeps (`Kept.step`), and a whole
run with it; that the two tell the same is one such property, and that the keys ever seen only
grow is another.

Most of what the two tell is a property of the state alone, and for these `Kept` is made. It asks
for one thing of a failing cycle and one of a publishing cycle; nothing else writes the books, and
this is proved once for any property. The last error is not like that. Whether there is one depends
on which result came last, so it is read off the history, where the sums of returns have it already.
-/

set_option autoImplicit false

namespace Flowmeter.Collector

open History

/-- How the calls that were counted have ended, in the order in which they returned. -/
def History.answers (history : List Effect) : List Result :=
  ((returns history).map Prod.snd).filter Result.isCounted

/-- What a collector keeps about its cycles, the last error apart. -/
structure Books where
  accounts : Accounts
  instruments : Instruments
  cycles : Nat
  failures : Nat
  lastSuccess : Option Nat

def Service.books (s : Service) : Books :=
  ⟨s.accounts, s.instruments, s.cycles, s.failures, s.lastSuccess⟩

theorem Service.books_endLoop (s : Service) (caller : Caller) :
    (s.endLoop caller).books = s.books := by
  cases caller <;> rfl

/-- A property of books that a cycle keeps, whether it fails or publishes. -/
structure Kept (P : Books → Prop) : Prop where
  fail : ∀ (s : Service) (failure : Failure), P s.books → P (s.fail failure).1.books
  publish : ∀ (s : Service) (survey : Survey) (now milliseconds : Nat), P s.books →
    P (s.publish survey now milliseconds).1.books

/-! ## What cycles keep, steps keep

One case for each function of the collector. All but two of them hand the books on as they are. -/

namespace Kept

open Service

variable {P : Books → Prop} {s : Service}

/-- A cycle fails, publishes or is broken off, and in the last case the books are not touched. -/
theorem digest (h : Kept P) (hs : P s.books) (outcome : Except Files.Fault String)
    (now milliseconds : Nat) : P (s.digest outcome now milliseconds).1.books := by
  rcases s.digest_cases outcome now milliseconds with
    ⟨failure, hstate, -⟩ | ⟨breakdown, hstate, -⟩ | ⟨survey, hstate, -⟩
  · rw [hstate]
    exact h.fail s failure hs
  · rwa [hstate]
  · rw [hstate]
    exact h.publish s survey now milliseconds hs

/-- A call that finds a reading in progress fails; one that begins its own writes nothing yet. -/
theorem proceed (h : Kept P) (hs : P s.books) (call : Call) : P (s.proceed call).1.books := by
  rw [Service.proceed]
  split
  · exact h.fail s _ hs
  · exact hs

theorem ask (h : Kept P) (hs : P s.books) (caller : Caller) : P (s.ask caller).1.books := by
  rw [Service.ask]
  split
  · -- being let in moves the turns only, so the books are still those of the state before
    exact h.proceed (s := { s with turns := s.turns.letIn (s.turns.nextCall caller) }) hs _
  · exact hs

theorem enter (h : Kept P) (hs : P s.books) (w : Waiter) : P (s.enter w).1.books := by
  rw [Service.enter]
  split
  · exact h.proceed (s := { s with turns := s.turns.hold w.call }) hs _
  · exact hs

/-- What is cancelled is counted nowhere. -/
theorem breakOff (hs : P s.books) (number : Nat) : P (s.breakOff number).1.books := by
  rw [Service.breakOff]
  split
  · rwa [books_endLoop]
  · rwa [books_endLoop]
  · exact hs

theorem cancelLoop (hs : P s.books) (loop : Nat) : P (s.cancelLoop loop).1.books := by
  rw [Service.cancelLoop]
  split
  · exact breakOff hs _
  · rwa [books_endLoop]

/-- **What cycles keep, every step keeps.** -/
theorem step (h : Kept P) (hs : P s.books) (event : Event) : P (s.step event).1.books := by
  cases event with
  | call client => exact h.ask hs (.client client)
  | enter number =>
    rw [Service.step]
    split
    · exact h.enter hs _
    · exact hs
  | finish reading outcome =>
    rw [Service.step]
    split
    · exact hs
    · exact hs
  | conclude number now milliseconds =>
    rw [Service.step]
    split
    · exact h.digest hs _ now milliseconds
    · exact hs
  | expire number =>
    rw [Service.step]
    split
    · exact h.fail s _ hs
    · exact hs
  | cancel number => exact breakOff hs number
  | start => exact hs
  | wake loop =>
    rw [Service.step]
    split
    · exact h.ask hs (.loop loop)
    · exact hs
  | stop =>
    rw [Service.step]
    split
    · exact hs
    · exact cancelLoop (s := { s with stopping := s.stopping + 1 }) hs _
  | stopped =>
    rw [Service.step]
    split
    · exact hs
    · exact hs

/-- What cycles keep, a run keeps. -/
theorem run (h : Kept P) (hs : P s.books) (events : List Event) : P (s.run events).1.books := by
  induction events generalizing s with
  | nil => exact hs
  | cons event rest ih =>
    -- the property is kept by the first step, and then by the rest
    rw [run_cons]
    exact ih (h.step hs event)

end Kept

/-! ## The books agree with themselves

Successes are counted three times: as cycles, as durations observed, and under their own reason.
Failures are counted twice, and of the reasons it is enough that none of them is that of a success.
-/

namespace Books

/-- The counts, the instruments and the accounts of a collector tell the same. -/
structure Agree (b : Books) : Prop where
  successes : Instruments.countOf b.instruments.cycles "success" = b.cycles
  durations : b.instruments.durations = b.cycles
  others : Instruments.countBut b.instruments.cycles "success" = b.failures
  lastSuccess : b.lastSuccess ≠ none ↔ 1 ≤ b.cycles
  tracked : b.accounts.ledger.tracked = b.instruments.trackedKeys
  published : b.accounts.ledger.tracked = b.accounts.published.snapshot.size
  seen : ∀ key ∈ b.accounts.ledger.baseline.keys, key ∈ b.accounts.ledger.seen

/-- What is tracked is part of what was ever seen. -/
theorem Agree.tracked_le_seen {b : Books} (h : b.Agree) :
    b.accounts.ledger.tracked ≤ b.accounts.ledger.seen.length := by
  rw [Ledger.tracked, ← Table.length_keys]
  exact (b.accounts.ledger.baseline.keys_nodup.subperm h.seen).length_le

end Books

/-- No failure is counted as a success. -/
theorem Failure.reason_ne_success (failure : Failure) : failure.reason ≠ "success" := by
  cases failure <;> simp [reason]

/-- Cycles keep the books in agreement. -/
theorem Books.kept_agree : Kept Books.Agree where
  fail s failure h := by
    have hne := failure.reason_ne_success
    have hsuccess := Instruments.countOf_bump_of_ne s.instruments.cycles hne.symm
    have hothers := Instruments.countBut_bump s.instruments.cycles failure.reason "success"
    -- every reason but that of a success counts as another
    rw [if_pos hne] at hothers
    exact {
      successes := hsuccess.trans h.successes
      durations := h.durations
      others := hothers.trans (congrArg (· + 1) h.others)
      lastSuccess := h.lastSuccess
      tracked := h.tracked
      published := h.published
      seen := h.seen }
  publish s survey now milliseconds h := by
    have hsuccess := Instruments.countOf_bump_self s.instruments.cycles "success"
    have hothers := Instruments.countBut_bump s.instruments.cycles "success" "success"
    exact {
      successes := hsuccess.trans (congrArg (· + 1) h.successes)
      durations := congrArg (· + 1) h.durations
      others := hothers.trans h.others
      lastSuccess := by simp [Service.books, Service.publish]
      -- the baseline, the gauge and the snapshot are all taken from the survey
      tracked := rfl
      published := rfl
      seen := fun key hkey => (Accounts.mem_seen_record s.accounts survey.snapshot key).mpr
        (Or.inr hkey) }

/-- Cycles never forget a key. -/
theorem Books.kept_seen (n : Nat) : Kept fun b => n ≤ b.accounts.ledger.seen.length where
  fail _ _ h := h
  publish s survey _ _ h := by
    refine h.trans ?_
    show _ ≤ (s.accounts.ledger.seen ++ (s.accounts.ledger.change survey.snapshot).newKeys).length
    rw [List.length_append]
    exact Nat.le_add_right _ _

/-! ## Status, instruments and history

What is left is to put the two sources together: the books for what the state tells by itself, the
sums of returns for the last error. -/

/-- Without a last error nothing has been counted yet, or a success last. -/
theorem Tally.Sums.lastError_eq_none_iff {t : Tally} {results : List Result}
    (h : t.Sums results) : t.lastError = none ↔ results.filter Result.isCounted = [] ∨
      (results.filter Result.isCounted).getLast? = some .published := by
  rw [← not_iff_not, ← ne_eq, h.lastError]
  cases hlast : (results.filter Result.isCounted).getLast? with
  | none => simp [List.getLast?_eq_none_iff.mp hlast]
  | some last =>
    have hmem := List.mem_of_getLast? hlast
    have hne := List.ne_nil_of_mem hmem
    have hcounted : last.isCounted = true := (List.mem_filter.mp hmem).2
    cases last with
    | published => simp
    | failed => simp [hne]
    | raised breakdown => cases hcounted

namespace Service

/-- What a collector tells of its cycles in its status, in its instruments and in the series is
    the same, and is what its history comes to. -/
structure Coherent (s : Service) (history : List Effect) : Prop where
  successes : Instruments.countOf s.instruments.cycles "success" = s.status.cycles
  durations : s.instruments.durations = s.status.cycles
  others : Instruments.countBut s.instruments.cycles "success" = s.status.failures
  lastSuccess : s.status.lastSuccess ≠ none ↔ 1 ≤ s.status.cycles
  lastError : s.status.lastError = none ↔
    answers history = [] ∨ (answers history).getLast? = some .published
  tracked : s.status.trackedKeys = s.instruments.trackedKeys
  published : s.status.trackedKeys = s.accounts.published.snapshot.size
  seen : s.status.trackedKeys ≤ s.status.seenKeys

/-- A collector that has done nothing has counted nothing, anywhere. -/
theorem agree_new (table : String) (timing : Timing) : (new table timing).books.Agree where
  successes := rfl
  durations := rfl
  others := rfl
  lastSuccess := by simp [books, new]
  tracked := rfl
  published := rfl
  seen := by simp [books, new, Accounts.empty, Ledger.empty]

/-- **Status and instruments stay coherent** over every run, whatever fails, is cancelled or
    broken off in it, and the number of keys ever seen never decreases. -/
theorem status_coherent (table : String) (timing : Timing) (events : List Event) :
    (after table timing events).Coherent (historyAfter table timing events) ∧
    ∀ more, (after table timing events).status.seenKeys ≤
      ((after table timing events).run more).1.status.seenKeys := by
  have hagree : (after table timing events).books.Agree :=
    Books.kept_agree.run (agree_new table timing) events
  -- the last error is none of the books: which it is hangs on the order of the outcomes
  have hsums := sums_run events (sums_new table timing)
  rw [List.nil_append] at hsums
  refine ⟨?_, fun more => ?_⟩
  · exact {
      successes := hagree.successes
      durations := hagree.durations
      others := hagree.others
      lastSuccess := hagree.lastSuccess
      lastError := hsums.lastError_eq_none_iff
      tracked := hagree.tracked
      published := hagree.published
      seen := hagree.tracked_le_seen }
  · exact (Books.kept_seen (after table timing events).status.seenKeys).run (Nat.le_refl _) more

end Service

end Flowmeter.Collector
