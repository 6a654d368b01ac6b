import Flowmeter.Proofs.Collector.Refinement
import Flowmeter.Proofs.Snapshot.Survey

/-!
# Every cycle is counted once

A cycle that publishes is one more of the cycles and clears the last error; one that fails is
one more of the failures and leaves its reason. Nothing else touches these, and no step has two
calls return. But a cycle can also be broken off, and then it is counted nowhere: a counter with
too many digits is no failure, though it stands in the table like anything else.

What a status tells is read off the state, and what calls return is read off the history; neither is
defined by the other. `Tally.Counts` says what one return makes of a tally, `CountsOnce` that a step
makes nothing else of it, and `Tally.Sums` that after a run the tally is the sum. The step is a case
of each event, and nearly all of them are one of two: nothing returns and nothing is counted, or one
call returns and its result is.

The exact condition for a cycle to be broken off, `Breaks`, speaks of what has been read and not of
the state. So it can be decided for a table before any collector has seen it.
-/

set_option autoImplicit false

namespace Flowmeter.Collector

open History

/-! ## Returns in a history -/

/-- The call that returns, and how its cycle has ended. -/
def Effect.returned? : Effect → Option (Call × Result)
  | .returned call result => some (call, result)
  | _ => none

/-- A result that is counted, as a cycle or as a failure. -/
def Result.isCounted : Result → Bool
  | .published | .failed => true
  | .raised _ => false

namespace History

def returns (history : List Effect) : List (Call × Result) :=
  history.filterMap Effect.returned?

@[simp] theorem returns_append (history more : List Effect) :
    returns (history ++ more) = returns history ++ returns more :=
  List.filterMap_append

@[simp] theorem returns_notices (l : List Notice) : returns (l.map .notice) = [] := by
  refine List.filterMap_eq_nil_iff.mpr fun e he => ?_
  obtain ⟨n, -, rfl⟩ := List.mem_map.mp he
  rfl

end History

/-! ## What is counted

`Counts` has three cases, one for each way in which a cycle ends, and the third leaves the tally as
it is: that is where a cycle is not counted although it has returned. -/

/-- What a status tells of the cycles. -/
structure Tally where
  cycles : Nat
  failures : Nat
  lastError : Option String

def Service.tally (s : Service) : Tally := ⟨s.cycles, s.failures, s.lastError⟩

namespace Tally

/-- What becomes of a tally when a call returns. -/
inductive Counts (t : Tally) : Result → Tally → Prop
  | published : Counts t .published ⟨t.cycles + 1, t.failures, none⟩
  | failed {reason : String} (hreason : reason ≠ "") :
      Counts t .failed ⟨t.cycles, t.failures + 1, some reason⟩
  | raised (breakdown : Breakdown) : Counts t (.raised breakdown) t

/-- A tally is the sum of some results. -/
structure Sums (t : Tally) (results : List Result) : Prop where
  cycles : t.cycles = results.count .published
  failures : t.failures = results.count .failed
  /-- There is an error just if the last result that was counted is a failure. -/
  lastError : t.lastError ≠ none ↔ (results.filter Result.isCounted).getLast? = some .failed
  reason : ∀ reason ∈ t.lastError, reason ≠ ""

variable {t t' : Tally} {results : List Result} {result : Result}

theorem Sums.snoc (h : t.Sums results) (hc : t.Counts result t') :
    t'.Sums (results ++ [result]) := by
  cases hc with
  | published =>
    refine ⟨?_, ?_, ?_, by simp⟩
    · simp [h.cycles]
    · simp [h.failures]
    · simp [Result.isCounted]
  | failed hreason =>
    refine ⟨?_, ?_, ?_, ?_⟩
    · simp [h.cycles]
    · simp [h.failures]
    · simp [Result.isCounted]
    · simpa using hreason
  | raised breakdown =>
    -- what is not counted is not the last result that was counted either
    refine ⟨?_, ?_, ?_, h.reason⟩
    · simp [h.cycles]
    · simp [h.failures]
    · simpa [Result.isCounted] using h.lastError

end Tally

/-- A failure has a kind, and the kind is named, so the last error is never the empty text: a
    status with an error can be told from one without. -/
theorem Failure.summary_ne_empty (failure : Failure) : failure.summary ≠ "" := by
  intro hempty
  have hlength := congrArg String.length hempty
  simp [summary] at hlength

/-! ## What breaks a cycle off

A cycle ends in one of three ways, and which of them lies in what its reading has yielded. First
what each way counts, then exactly when a cycle is broken off and when it publishes. -/

/-- What a reading yields that is neither a table nor a failure to read one: a text with a
    counter of too many digits, or the fault of a path that no file can have. -/
def Breaks : Except Files.Fault String → Prop
  | .ok text => ¬ Survey.Readable text
  | .error fault => fault.problem.number? = none

namespace Service

variable {s : Service}

theorem counts_fail (failure : Failure) :
    s.tally.Counts (s.fail failure).2.2 (s.fail failure).1.tally :=
  .failed failure.summary_ne_empty

/-- A text that has been read to its end breaks nothing off: it publishes, or it has no flows and
    fails. -/
theorem digestSurvey_ne_raised (survey : Survey) (now milliseconds : Nat)
    (breakdown : Breakdown) :
    (s.digestSurvey survey now milliseconds).2.2 ≠ .raised breakdown := by
  by_cases hnone : survey.accepted = 0
  · simp [digestSurvey, if_pos hnone, fail]
  · simp [digestSurvey, if_neg hnone, publish]

theorem counts_digest (outcome : Except Files.Fault String) (now milliseconds : Nat) :
    s.tally.Counts (s.digest outcome now milliseconds).2.2
      (s.digest outcome now milliseconds).1.tally := by
  rcases s.digest_cases outcome now milliseconds with
    ⟨failure, hstate, hresult⟩ | ⟨breakdown, hstate, hresult⟩ | ⟨survey, hstate, hresult⟩
  · rw [hstate, hresult]
    exact counts_fail failure
  · rw [hstate, hresult]
    exact .raised breakdown
  · rw [hstate, hresult]
    exact .published

/-- A cycle is broken off by what its reading yields, and by nothing else. -/
theorem digest_raised_iff (outcome : Except Files.Fault String) (now milliseconds : Nat) :
    (∃ breakdown, (s.digest outcome now milliseconds).2.2 = .raised breakdown) ↔
      Breaks outcome := by
  cases outcome with
  | error fault =>
    rw [digest, Breaks, ← Failure.ofFault?_eq_none_iff]
    cases Failure.ofFault? s.table s.timing.readTimeout fault with
    | none => simp
    | some failure => simp [fail]
  | ok text =>
    rw [digest, Breaks]
    by_cases hreadable : Survey.Readable text
    · rw [Survey.ofText_of_readable hreadable]
      simp [digestSurvey_ne_raised, hreadable]
    · obtain ⟨fault, hfault⟩ := Survey.ofText_of_not_readable hreadable
      rw [hfault]
      simp [hreadable]

/-- A cycle publishes just if its reading has yielded a text with a snapshot. -/
theorem digest_published_iff (outcome : Except Files.Fault String) (now milliseconds : Nat) :
    (s.digest outcome now milliseconds).2.2 = .published ↔
      ∃ text snapshot, outcome = .ok text ∧ Snapshot.ofText text = .ok snapshot := by
  constructor
  · intro hpublished
    -- the verdict knows the snapshot; its cases are read off instead of those of the reading
    have hverdict := verdict_digest (s := s) outcome now milliseconds
    generalize s.digest outcome now milliseconds = verdict at hpublished hverdict
    cases hverdict with
    | published ho hs => exact ⟨_, _, Option.some.inj ho, hs⟩
    | _ => cases hpublished
  · rintro ⟨text, snapshot, rfl, hs⟩
    obtain ⟨s', l, hdigest, -⟩ := digest_of_snapshot (s := s) hs now milliseconds
    rw [hdigest]

/-! ## Steps

A call can return where it takes the lock and finds a reading in progress, where it goes on with
what it has read, and where its time is up. All three come to `conclude`, so `countsOnce_conclude`
is the only lemma with a return in it. -/

/-- A call returns: what is counted, and that it is broken off only by what it has read. -/
structure Return (s : Service) (call : Call) (result : Result) (s' : Service) : Prop where
  counts : s.tally.Counts result s'.tally
  broken : ∀ breakdown, result = .raised breakdown → ∃ h ∈ s.turns.holders, h.call = call ∧
    ∃ outcome, h.outcome = some outcome ∧ Breaks outcome

/-- At most one call returns, and what is counted is counted for it. -/
def CountsOnce (s : Service) (next : Service × List Effect) : Prop :=
  (returns next.2 = [] ∧ next.1.tally = s.tally) ∨
    ∃ call result, returns next.2 = [(call, result)] ∧ s.Return call result next.1

theorem CountsOnce.nothing {s' : Service} {effects : List Effect} (hnone : returns effects = [])
    (htally : s'.tally = s.tally) : s.CountsOnce (s', effects) :=
  Or.inl ⟨hnone, htally⟩

/-- An effect in front by which no call returns. -/
theorem CountsOnce.cons {next : Service × List Effect} (h : s.CountsOnce next) {e : Effect}
    (he : e.returned? = none) : s.CountsOnce (next.1, e :: next.2) := by
  have hreturns : returns (e :: next.2) = returns next.2 := List.filterMap_cons_none he
  rw [CountsOnce, hreturns]
  exact h

/-- Notices go before and after the return of a call, and are no returns. -/
theorem returns_conclude (call : Call) (verdict : Service × List Notice × Result) :
    returns (conclude call verdict).2 = [(call, verdict.2.2)] := by
  rw [conclude, returns_append, returns_append, returns_notices, returns_notices]
  rfl

theorem countsOnce_conclude {call : Call} {verdict : Service × List Notice × Result}
    (h : s.Return call verdict.2.2 verdict.1) : s.CountsOnce (conclude call verdict) :=
  Or.inr ⟨call, verdict.2.2, returns_conclude call verdict, h.counts, h.broken⟩

/-- A call fails, from a state in which as much has been counted. -/
theorem countsOnce_fail {s' : Service} (htally : s'.tally = s.tally) (call : Call)
    (failure : Failure) : s.CountsOnce (conclude call (s'.fail failure)) := by
  refine countsOnce_conclude ⟨?_, fun _ hraised => by cases hraised⟩
  rw [← htally]
  exact counts_fail failure

/-- A call that has the lock fails at once, or begins to read and returns nothing yet. -/
theorem countsOnce_proceed {s' : Service} (htally : s'.tally = s.tally) (call : Call) :
    s.CountsOnce (s'.proceed call) := by
  rw [proceed]
  split
  case isTrue => exact countsOnce_fail htally call _
  case isFalse => exact .nothing rfl htally

theorem countsOnce_ask (caller : Caller) : s.CountsOnce (s.ask caller) := by
  rw [ask]
  split
  -- the call holds the lock by now, but all that can end it here is a reading still in progress
  case isTrue => exact ((countsOnce_proceed (by rfl) _).cons rfl).cons rfl
  case isFalse => exact .nothing rfl rfl

theorem countsOnce_enter (w : Waiter) : s.CountsOnce (s.enter w) := by
  rw [enter]
  split
  case isTrue => exact (countsOnce_proceed (by rfl) _).cons rfl
  case isFalse => exact .nothing rfl rfl

/-- A loop that ends leaves the counts alone. -/
theorem tally_endLoop (s : Service) (caller : Caller) :
    (s.endLoop caller).tally = s.tally := by
  cases caller <;> rfl

/-- A call that is cancelled returns nothing. -/
theorem breakOff_uncounted (s : Service) (number : Nat) :
    returns (s.breakOff number).2 = [] ∧ (s.breakOff number).1.tally = s.tally := by
  rw [breakOff]
  split
  · exact ⟨rfl, tally_endLoop _ _⟩
  · exact ⟨rfl, tally_endLoop _ _⟩
  · exact ⟨rfl, rfl⟩

theorem cancelLoop_uncounted (s : Service) (loop : Nat) :
    returns (s.cancelLoop loop).2 = [] ∧ (s.cancelLoop loop).1.tally = s.tally := by
  rw [cancelLoop]
  split
  · exact breakOff_uncounted s _
  · exact ⟨rfl, tally_endLoop _ _⟩

/-- A call that goes on with what its reading has yielded. -/
theorem countsOnce_digest {h : Holder} (hh : h ∈ s.turns.holders)
    {outcome : Except Files.Fault String} (ho : h.outcome = some outcome)
    (now milliseconds : Nat) :
    s.CountsOnce (conclude h.call (s.digest outcome now milliseconds)) := by
  refine countsOnce_conclude ⟨counts_digest outcome now milliseconds, ?_⟩
  intro breakdown hraised
  exact ⟨h, hh, rfl, outcome, ho, (digest_raised_iff outcome now milliseconds).mp
    ⟨breakdown, hraised⟩⟩

/-- **A step counts the return of a call once**, and nothing if no call returns. -/
theorem countsOnce_step (s : Service) (event : Event) : s.CountsOnce (s.step event) := by
  cases event with
  | call client => exact countsOnce_ask (.client client)
  | enter number =>
    rw [step]
    split
    · exact countsOnce_enter _
    · exact .nothing rfl rfl
  | finish reading outcome =>
    rw [step]
    split
    · exact .nothing rfl rfl
    · exact .nothing rfl rfl
  | conclude number now milliseconds =>
    rw [step]
    split
    case h_1 call reading outcome hh =>
      exact countsOnce_digest (List.mem_of_find?_eq_some hh) rfl now milliseconds
    case h_2 => exact .nothing rfl rfl
  | expire number =>
    rw [step]
    split
    · exact countsOnce_fail rfl _ _
    · exact .nothing rfl rfl
  | cancel number => exact Or.inl (breakOff_uncounted s number)
  | start => exact .nothing rfl rfl
  | wake loop =>
    rw [step]
    split
    · exact countsOnce_ask (.loop loop)
    · exact .nothing rfl rfl
  | stop =>
    rw [step]
    split
    · exact .nothing rfl rfl
    · exact Or.inl (cancelLoop_uncounted _ _)
  | stopped =>
    rw [step]
    split
    · exact .nothing rfl rfl
    · exact .nothing rfl rfl

theorem run_cons (s : Service) (event : Event) (rest : List Event) :
    s.run (event :: rest) = (((s.step event).1.run rest).1,
      (s.step event).2 ++ ((s.step event).1.run rest).2) := rfl

/-- A run goes on where the one before has led, and so does its history. -/
theorem run_append (s : Service) (events more : List Event) :
    s.run (events ++ more) = (((s.run events).1.run more).1,
      (s.run events).2 ++ ((s.run events).1.run more).2) := by
  induction events generalizing s with
  | nil => rfl
  | cons event rest ih => rw [List.cons_append, run_cons, run_cons, ih, List.append_assoc]

theorem run_snoc (s : Service) (events : List Event) (event : Event) :
    s.run (events ++ [event]) = (((s.run events).1.step event).1,
      (s.run events).2 ++ ((s.run events).1.step event).2) := by
  rw [run_append, run_cons]
  simp [run]

theorem sums_step {results : List Result} (h : s.tally.Sums results) (event : Event) :
    (s.step event).1.tally.Sums
      (results ++ (returns (s.step event).2).map Prod.snd) := by
  rcases countsOnce_step s event with ⟨hnone, htally⟩ | ⟨call, result, hone, hreturn⟩
  · rw [hnone, htally, List.map_nil, List.append_nil]
    exact h
  · rw [hone]
    exact h.snoc hreturn.counts

/-- What a status tells is the sum of all returns. -/
theorem sums_run (events : List Event) {results : List Result} (h : s.tally.Sums results) :
    (s.run events).1.tally.Sums (results ++ (returns (s.run events).2).map Prod.snd) := by
  -- both the collector and the results so far move along with the events
  induction events generalizing s results with
  | nil =>
    show s.tally.Sums (results ++ [])
    rwa [List.append_nil]
  | cons event rest ih =>
    rw [run_cons, returns_append, List.map_append, ← List.append_assoc]
    exact ih (sums_step h event)

theorem sums_new (table : String) (timing : Timing) : (new table timing).tally.Sums [] where
  cycles := rfl
  failures := rfl
  lastError := by simp [tally, new]
  reason := by simp [tally, new]

/-- **Every return is counted once.** What a status tells is the sum of all returns so far. In
    one step at most one call returns. If it publishes, the cycles are one more and there is no
    last error; if it fails, the failures are one more and the last error says why. If it is
    broken off nothing changes, and that is by what its reading has yielded: a text that is not
    readable, or the fault of a path that no file can have. A call whose reading has finished
    goes on to one of these three ends, whichever the reading calls for, and one whose time is up
    fails. -/
theorem returns_counted_once (table : String) (timing : Timing) (events : List Event) :
    (after table timing events).tally.Sums
      ((returns (historyAfter table timing events)).map Prod.snd) ∧
    (∀ event,
      (returns ((after table timing events).step event).2 = [] ∧
        ((after table timing events).step event).1.tally = (after table timing events).tally) ∨
      ∃ call result, returns ((after table timing events).step event).2 = [(call, result)] ∧
        (after table timing events).tally.Counts result
          ((after table timing events).step event).1.tally) ∧
    (∀ event call breakdown,
      (call, .raised breakdown) ∈ returns ((after table timing events).step event).2 →
        ∃ outcome, Yielded (historyAfter table timing events) call outcome ∧ Breaks outcome) ∧
    (∀ call ∈ inside (historyAfter table timing events), ∀ outcome,
      Yielded (historyAfter table timing events) call outcome → ∀ now milliseconds, ∃ result,
        returns ((after table timing events).step (.conclude call.number now milliseconds)).2 =
          [(call, result)] ∧
        (result = .published ↔
          ∃ text snapshot, outcome = .ok text ∧ Snapshot.ofText text = .ok snapshot) ∧
        ((∃ breakdown, result = .raised breakdown) ↔ Breaks outcome)) ∧
    (∀ call ∈ inside (historyAfter table timing events),
      returns ((after table timing events).step (.expire call.number)).2 = [(call, .failed)]) := by
  have h := consistent_after table timing events
  refine ⟨?sums, ?step, ?broken, ?concludes, ?expires⟩
  case sums => exact sums_run events (sums_new table timing)
  case step =>
    intro event
    rcases countsOnce_step (after table timing events) event with hnone | ⟨call, result, hone, hr⟩
    · exact Or.inl hnone
    · exact Or.inr ⟨call, result, hone, hr.counts⟩
  case broken =>
    intro event call breakdown hin
    rcases countsOnce_step (after table timing events) event with
      ⟨hnone, -⟩ | ⟨other, result, hone, hr⟩
    · rw [hnone] at hin
      cases hin
    · rw [hone, List.mem_singleton] at hin
      cases hin
      obtain ⟨holder, hh, rfl, outcome, ho, hbreaks⟩ := hr.broken breakdown rfl
      exact ⟨outcome, h.know.outcome holder hh outcome ho, hbreaks⟩
  case concludes =>
    intro call hin outcome hy now milliseconds
    -- whoever is inside and has been told something is the holder that the step looks for
    obtain ⟨reading, hfound⟩ := h.holder_of_yielded (told_after table timing events) hin hy
    have hstep : (after table timing events).step (.conclude call.number now milliseconds) =
        conclude call ((after table timing events).digest outcome now milliseconds) := by
      rw [step, show (after table timing events).turns.holder? call.number = _ from hfound]
    rw [hstep, returns_conclude]
    exact ⟨_, rfl, digest_published_iff outcome now milliseconds,
      digest_raised_iff outcome now milliseconds⟩
  case expires =>
    intro call hin
    obtain ⟨holder, -, rfl, hfound⟩ := h.holder_of_inside hin
    rw [step, show (after table timing events).turns.holder? holder.call.number = _ from hfound]
    exact returns_conclude _ _

/-- The cycle of a text that is not readable leaves no trace in the status. -/
theorem unreadable_uncounted (table : String) (timing : Timing) {text : String}
    (h : ¬ Survey.Readable text) :
    (∃ breakdown, returns (historyAfter table timing
      [.call 0, .finish 0 (.ok text), .conclude 0 0 0]) = [(⟨0, .client 0⟩, .raised breakdown)]) ∧
    (after table timing [.call 0, .finish 0 (.ok text), .conclude 0 0 0]).tally = ⟨0, 0, none⟩ := by
  obtain ⟨fault, hfault⟩ := Survey.ofText_of_not_readable h
  have hread : returns (historyAfter table timing [.call 0, .finish 0 (.ok text)]) = [] ∧
      (after table timing [.call 0, .finish 0 (.ok text)]).tally = ⟨0, 0, none⟩ := ⟨rfl, rfl⟩
  have hstep : (after table timing [.call 0, .finish 0 (.ok text)]).step (.conclude 0 0 0) =
      conclude ⟨0, .client 0⟩ (after table timing [.call 0, .finish 0 (.ok text)], [],
        .raised (.oversizedCounter fault)) := by
    show conclude ⟨0, .client 0⟩ ((after table timing _).digest (.ok text) 0 0) = _
    rw [digest, hfault]
  -- the last step by itself: the text is a variable, and a run over it cannot be computed
  have hrun := run_snoc (new table timing) [.call 0, .finish 0 (.ok text)] (.conclude 0 0 0)
  rw [← after, ← historyAfter, hstep] at hrun
  have hhistory := congrArg Prod.snd hrun
  have hafter := congrArg Prod.fst hrun
  refine ⟨⟨.oversizedCounter fault, ?_⟩, ?_⟩
  · refine (congrArg returns hhistory).trans ?_
    rw [returns_append, hread.1, returns_conclude]
    rfl
  · exact (congrArg tally hafter).trans hread.2

/-- A counter of 4301 digits in the table: the call that reads it is not cancelled, and yet it
    returns neither way and nothing is counted. -/
theorem manyPackets_uncounted :
    (∃ breakdown, returns (historyAfter "/proc/net/nf_conntrack" ⟨60, 10⟩
      [.call 0, .finish 0 (.ok (String.ofList (Survey.manyPackets 4301))), .conclude 0 0 0]) =
        [(⟨0, .client 0⟩, .raised breakdown)]) ∧
    (after "/proc/net/nf_conntrack" ⟨60, 10⟩
      [.call 0, .finish 0 (.ok (String.ofList (Survey.manyPackets 4301))), .conclude 0 0 0]).tally =
        ⟨0, 0, none⟩ :=
  unreadable_uncounted _ _ fun hreadable =>
    absurd ((Survey.readable_manyPackets_iff 4301).mp hreadable) (by omega)

end Service

end Flowmeter.Collector
