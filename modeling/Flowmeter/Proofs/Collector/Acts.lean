import Flowmeter.Proofs.Accounts.Record
import Flowmeter.Proofs.Collector.History

/-!
# What a step can do

A step of the collector is a sequence of acts, and there are eight kinds of them. `Act` says of
each when it can happen, which effects it has, and what it does to the turns and the accounts;
the counts and times that a collector keeps besides play no part in when anything happens.
Every invariant of the collector is then one of acts, and needs no look at events.

Steps are not the right unit. One of them may do several things to the lock at once, as when a call
is let in and begins its reading; another does one of several things, as when a call is cancelled
that may hold the lock or wait for it. An act does one thing. Whether it is seen alone or in a step
with others makes no difference to what it keeps.

The conditions of the acts are what later proofs draw on: that a call begins a reading only where
none is in progress, and that a call can end as published only with a text that it has read itself.
That every step is a trail is therefore the one place where the program is looked at, and it is
looked at once, function by function in the order in which they call each other.
-/

set_option autoImplicit false

namespace Flowmeter

/-- The notice of a call that finds a reading still in progress. -/
def Notice.saysStillReading : Notice → Bool
  | .cycleAborted (.stillReading _) => true
  | _ => false

namespace Collector

/-- The turns and the accounts of a collector. -/
structure Core where
  turns : Turns
  accounts : Accounts

/-- The turns and the accounts of a collector. -/
def Service.core (s : Service) : Core := ⟨s.turns, s.accounts⟩

/-- How a call that has the lock may end, and what becomes of the accounts: they change only
    if its reading has yielded a text with a snapshot. -/
inductive Ending (accounts : Accounts) (holder : Holder) : Effect → Accounts → Prop
  | cancelled : Ending accounts holder (.cancelled holder.call) accounts
  | failed : Ending accounts holder (.returned holder.call .failed) accounts
  | raised (breakdown : Breakdown) :
      Ending accounts holder (.returned holder.call (.raised breakdown)) accounts
  | published {text : String} {snapshot : Snapshot} (ho : holder.outcome = some (.ok text))
      (hs : Snapshot.ofText text = .ok snapshot) :
      Ending accounts holder (.returned holder.call .published) (accounts.record snapshot)

/-- One act. -/
inductive Act : Core → List Effect → Core → Prop
  | notice {c : Core} {n : Notice}
      (h : n.saysStillReading = true → c.turns.isReading = true) : Act c [.notice n] c
  | queue {c : Core} (caller : Caller) (hbusy : c.turns.lock.isFree = false) :
      Act c [.called (c.turns.nextCall caller)]
        ⟨c.turns.queue (c.turns.nextCall caller), c.accounts⟩
  | letIn {c : Core} (caller : Caller) (hfree : c.turns.lock.isFree = true) :
      Act c [.called (c.turns.nextCall caller), .entered (c.turns.nextCall caller)]
        ⟨c.turns.letIn (c.turns.nextCall caller), c.accounts⟩
  | hold {c : Core} {w : Waiter} (hw : w ∈ c.turns.lock.waiters) (hwoken : w.woken = true) :
      Act c [.entered w.call] ⟨c.turns.hold w.call, c.accounts⟩
  | beginReading {c : Core} {h : Holder} (hh : h ∈ c.turns.holders)
      (hnone : h.reading = none) (hidle : c.turns.isReading = false) :
      Act c [.readingBegun h.call c.turns.readingsBegun]
        ⟨c.turns.beginReading h.call, c.accounts⟩
  | finish {c : Core} {reading : Nat} (outcome : Except Files.Fault String)
      (hr : reading ∈ c.turns.unfinished) :
      Act c [.readingFinished reading outcome] ⟨c.turns.finish reading outcome, c.accounts⟩
  | leave {c : Core} {h : Holder} {e : Effect} {accounts : Accounts}
      (hh : h ∈ c.turns.holders) (hend : Ending c.accounts h e accounts) :
      Act c [.left h.call, e] ⟨c.turns.release h.call, accounts⟩
  | abandon {c : Core} {w : Waiter} (hw : w ∈ c.turns.lock.waiters) :
      Act c [.cancelled w.call] ⟨c.turns.abandon w.call, c.accounts⟩

/-- Acts one after the other. -/
inductive Trail : Core → List Effect → Core → Prop
  | done (c : Core) : Trail c [] c
  | act {c d e : Core} {effects later : List Effect} (first : Act c effects d)
      (rest : Trail d later e) : Trail c (effects ++ later) e

namespace Trail

variable {c d e : Core} {effects later : List Effect}

/-- One act is a trail. -/
theorem single (h : Act c effects d) : Trail c effects d := by
  have hone := act h (done d)
  rwa [List.append_nil] at hone

/-- A step may be put together from the trails of its parts. -/
theorem trans (h : Trail c effects d) (h' : Trail d later e) :
    Trail c (effects ++ later) e := by
  induction h with
  | done c => exact h'
  | act first _ ih =>
    rw [List.append_assoc]
    exact act first (ih h')

/-- What every act keeps, a trail keeps. -/
theorem keeps {P : List Effect → Core → Prop}
    (hact : ∀ {history effects c d}, P history c → Act c effects d → P (history ++ effects) d)
    (h : Trail c effects d) {history : List Effect} (hP : P history c) :
    P (history ++ effects) d := by
  induction h generalizing history with
  | done c => rwa [List.append_nil]
  | act first _ ih =>
    rw [← List.append_assoc]
    exact ih (hact hP first)

theorem notices {l : List Notice}
    (h : ∀ n ∈ l, n.saysStillReading = true → c.turns.isReading = true) :
    Trail c (l.map .notice) c := by
  induction l with
  | nil => exact done c
  | cons n rest ih =>
    exact act (.notice (h n (by simp))) (ih fun m hm => h m (List.mem_cons_of_mem n hm))

theorem quiet_notices {l : List Notice} (h : ∀ n ∈ l, n.saysStillReading = false) :
    Trail c (l.map .notice) c := by
  refine notices fun n hn hsays => ?_
  rw [h n hn] at hsays
  cases hsays

end Trail

namespace Service

variable {s : Service}

/-! ## What a cycle comes to

A cycle ends in a state, some notices and a result. Of the notices it matters only whether one says
that a reading is still in progress: that is the one that an onlooker may hold against the turns. -/

/-- The three ways out of a cycle, by the state that it leaves and its result. Where the state is
    all that matters, this is all that has to be known of what a cycle does. -/
theorem digest_cases (s : Service) (outcome : Except Files.Fault String)
    (now milliseconds : Nat) :
    (∃ failure, (s.digest outcome now milliseconds).1 = (s.fail failure).1 ∧
      (s.digest outcome now milliseconds).2.2 = .failed) ∨
    (∃ breakdown, (s.digest outcome now milliseconds).1 = s ∧
      (s.digest outcome now milliseconds).2.2 = .raised breakdown) ∨
    ∃ survey, (s.digest outcome now milliseconds).1 = (s.publish survey now milliseconds).1 ∧
      (s.digest outcome now milliseconds).2.2 = .published := by
  cases outcome with
  | error fault =>
    rw [digest]
    split
    case h_1 failure _ => exact .inl ⟨failure, rfl, rfl⟩
    case h_2 => exact .inr (.inl ⟨.badPath fault, rfl, rfl⟩)
  | ok text =>
    rw [digest]
    split
    case h_1 fault _ => exact .inr (.inl ⟨.oversizedCounter fault, rfl, rfl⟩)
    case h_2 survey _ =>
      by_cases hnone : survey.accepted = 0
      · simp only [digestSurvey, if_pos hnone]
        exact .inl ⟨_, rfl, rfl⟩
      · simp only [digestSurvey, if_neg hnone]
        exact .inr (.inr ⟨survey, rfl, rfl⟩)

/-- What a cycle comes to, as far as it matters to the turns and the accounts. -/
inductive Verdict (s : Service) (outcome : Option (Except Files.Fault String)) :
    Service × List Notice × Result → Prop
  | failed {s' : Service} {l : List Notice} (hcore : s'.core = s.core)
      (hl : ∀ n ∈ l, n.saysStillReading = true → s.turns.isReading = true) :
      Verdict s outcome (s', l, .failed)
  | raised (breakdown : Breakdown) : Verdict s outcome (s, [], .raised breakdown)
  | published {s' : Service} {l : List Notice} {text : String} {snapshot : Snapshot}
      (ho : outcome = some (.ok text)) (hs : Snapshot.ofText text = .ok snapshot)
      (hcore : s'.core = ⟨s.turns, s.accounts.record snapshot⟩)
      (hl : ∀ n ∈ l, n.saysStillReading = false) :
      Verdict s outcome (s', l, .published)

/-- A failure changes nothing of the core, and complains of a reading in progress only where
    there is one. -/
theorem verdict_fail (outcome : Option (Except Files.Fault String)) {failure : Failure}
    (h : ∀ table, failure = .stillReading table → s.turns.isReading = true) :
    Verdict s outcome (s.fail failure) := by
  refine .failed rfl ?_
  intro n hn hsays
  rw [List.mem_singleton.mp hn] at hsays
  cases failure with
  | stillReading table => exact h table rfl
  | _ => cases hsays

theorem publish_quiet (survey : Survey) (now milliseconds : Nat) :
    ∀ n ∈ (s.publish survey now milliseconds).2.1, n.saysStillReading = false := by
  simp [publish, Notice.saysStillReading]

theorem verdict_digestSurvey {text : String} {survey : Survey}
    (hsurvey : Survey.ofText text = .ok survey) (now milliseconds : Nat) :
    Verdict s (some (.ok text)) (s.digestSurvey survey now milliseconds) := by
  -- lines that were passed over are logged in either case, before anything else
  have hskipped : ∀ n ∈ (if survey.rejected = 0 then []
      else [Notice.linesSkipped survey.rejected]), n.saysStillReading = false := by
    intro n hn
    split at hn
    · cases hn
    · rw [List.mem_singleton.mp hn]
      rfl
  by_cases hnone : survey.accepted = 0
  · simp only [digestSurvey, if_pos hnone]
    refine .failed rfl ?_
    intro n hn hsays
    rcases List.mem_append.mp hn with hn | hn
    · rw [hskipped n hn] at hsays
      cases hsays
    · rw [List.mem_singleton.mp hn] at hsays
      cases hsays
  · have hs : Snapshot.ofText text = .ok survey.snapshot :=
      Snapshot.ofText_eq_ok_iff.mpr ⟨survey, hsurvey, hnone, rfl⟩
    simp only [digestSurvey, if_neg hnone]
    refine .published rfl hs rfl ?_
    intro n hn
    rcases List.mem_append.mp hn with hn | hn
    · exact hskipped n hn
    · exact publish_quiet survey now milliseconds n hn

/-- Whatever has been read, the cycle comes to one of the three verdicts, and publishes only the
    snapshot of that text. -/
theorem verdict_digest (outcome : Except Files.Fault String) (now milliseconds : Nat) :
    Verdict s (some outcome) (s.digest outcome now milliseconds) := by
  cases outcome with
  | error fault =>
    rw [digest]
    split
    case h_1 failure hfailure =>
      refine verdict_fail _ fun table hreading => ?_
      -- a fault of the file is one of two failures, neither of them a reading in progress
      rcases Failure.eq_of_ofFault? hfailure with rfl | rfl
      · cases hreading
      · cases hreading
    case h_2 => exact .raised _
  | ok text =>
    rw [digest]
    split
    case h_1 fault _ => exact .raised _
    case h_2 survey hsurvey => exact verdict_digestSurvey hsurvey now milliseconds

/-- A verdict ends the call of the holder in question, after what it logs. -/
theorem Verdict.ending {h : Holder} {s' : Service} {l : List Notice} {result : Result}
    (hv : Verdict s h.outcome (s', l, result)) :
    Ending s.accounts h (.returned h.call result) s'.accounts ∧ s'.turns = s.turns ∧
      Trail s.core (l.map .notice) s.core := by
  cases hv with
  | failed hcore hl =>
    cases s'
    cases hcore
    exact ⟨.failed, rfl, .notices hl⟩
  | raised breakdown => exact ⟨.raised breakdown, rfl, .done _⟩
  | published ho hs hcore hl =>
    cases s'
    cases hcore
    exact ⟨.published ho hs, rfl, .quiet_notices hl⟩

/-! ## Steps are trails

For each function of the collector a trail from the state it is given to the state it leaves, with
the effects it has. -/

theorem remarks_quiet (caller : Caller) (result : Result) :
    ∀ n ∈ remarks caller result, n.saysStillReading = false := by
  intro n hn
  cases caller <;> cases result <;> simp_all [remarks, Notice.saysStillReading]

/-- A call that concludes logs, lets the lock go and returns, in this order. -/
theorem trail_conclude {h : Holder} (hh : h ∈ s.turns.holders)
    {verdict : Service × List Notice × Result} (hv : Verdict s h.outcome verdict) :
    Trail s.core (conclude h.call verdict).2 (conclude h.call verdict).1.core := by
  obtain ⟨s', l, result⟩ := verdict
  obtain ⟨hending, hturns, hnotices⟩ := hv.ending
  have hcore : (conclude h.call (s', l, result)).1.core =
      ⟨s.turns.release h.call, s'.accounts⟩ := by
    rw [← hturns]
    rfl
  -- what the cycle logs comes before the lock is let go, what a loop says to it comes after
  rw [hcore]
  exact (hnotices.trans (.single (.leave hh hending))).trans
    (.quiet_notices (remarks_quiet h.call.caller result))

/-- With the lock in hand a call fails at once, if a reading is in progress, or begins its own. -/
theorem trail_proceed {h : Holder} (hh : h ∈ s.turns.holders) (hnone : h.reading = none) :
    Trail s.core (s.proceed h.call).2 (s.proceed h.call).1.core := by
  rw [proceed]
  split
  case isTrue hreading => exact trail_conclude hh (verdict_fail _ fun _ _ => hreading)
  case isFalse hidle =>
    exact .single (.beginReading hh hnone (Bool.eq_false_iff.mpr hidle))

theorem trail_ask (caller : Caller) :
    Trail s.core (s.ask caller).2 (s.ask caller).1.core := by
  rw [ask]
  cases hfree : s.turns.lock.isFree with
  | true =>
    -- the new holder is there for `proceed` to begin its reading
    have hin : (⟨s.turns.nextCall caller, none, none⟩ : Holder) ∈
        (s.turns.letIn (s.turns.nextCall caller)).holders := by
      simp [Turns.letIn, Turns.hold]
    exact .act (.letIn caller hfree)
      (trail_proceed (s := { s with turns := s.turns.letIn (s.turns.nextCall caller) }) hin rfl)
  | false => exact .single (.queue caller hfree)

theorem trail_enter {w : Waiter} (hw : w ∈ s.turns.lock.waiters) :
    Trail s.core (s.enter w).2 (s.enter w).1.core := by
  rw [enter]
  split
  case isTrue hwoken =>
    have hin : (⟨w.call, none, none⟩ : Holder) ∈ (s.turns.hold w.call).holders := by
      simp [Turns.hold]
    exact .act (.hold hw hwoken)
      (trail_proceed (s := { s with turns := s.turns.hold w.call }) hin rfl)
  case isFalse => exact .done _

/-- That a loop has ended is written down outside of the core. -/
theorem core_endLoop (s : Service) (caller : Caller) : (s.endLoop caller).core = s.core := by
  cases caller <;> rfl

/-- A call that is cancelled leaves the lock if it has it and the line if it waits; if it has
    ended there is nothing to break off. -/
theorem trail_breakOff (number : Nat) :
    Trail s.core (s.breakOff number).2 (s.breakOff number).1.core := by
  rw [breakOff]
  cases hh : s.turns.holder? number with
  | some h =>
    rw [core_endLoop]
    exact .single (.leave (List.mem_of_find?_eq_some hh) .cancelled)
  | none =>
    cases hw : s.turns.waiter? number with
    | some w =>
      rw [core_endLoop]
      exact .single (.abandon (List.mem_of_find?_eq_some hw))
    | none => exact .done _

theorem trail_cancelLoop (loop : Nat) :
    Trail s.core (s.cancelLoop loop).2 (s.cancelLoop loop).1.core := by
  rw [cancelLoop]
  cases s.callOf? loop with
  | some call => exact trail_breakOff call.number
  | none =>
    rw [core_endLoop]
    exact .done _

/-- **Every step is a sequence of acts.** -/
theorem trail_step (s : Service) (event : Event) :
    Trail s.core (s.step event).2 (s.step event).1.core := by
  cases event with
  | call client => exact trail_ask (.client client)
  | enter number =>
    rw [step]
    cases hw : s.turns.waiter? number with
    | some w => exact trail_enter (List.mem_of_find?_eq_some hw)
    | none => exact .done _
  | finish reading outcome =>
    rw [step]
    split
    case isTrue hr => exact .single (.finish outcome hr)
    case isFalse => exact .done _
  | conclude number now milliseconds =>
    rw [step]
    split
    case h_1 call reading outcome hh =>
      exact trail_conclude (List.mem_of_find?_eq_some hh) (verdict_digest outcome _ _)
    case h_2 => exact .done _
  | expire number =>
    rw [step]
    cases hh : s.turns.holder? number with
    | some h => exact trail_conclude (List.mem_of_find?_eq_some hh) (verdict_fail _ (by simp))
    | none => exact .done _
  | cancel number => exact trail_breakOff number
  | start => exact .done _
  | wake loop =>
    rw [step]
    split
    case isTrue => exact trail_ask (.loop loop)
    case isFalse => exact .done _
  | stop =>
    rw [step]
    split
    case h_1 => exact .done _
    case h_2 loop _ =>
      exact trail_cancelLoop (s := { s with stopping := s.stopping + 1 }) loop
  | stopped =>
    rw [step]
    split
    case isTrue => exact .done _
    case isFalse => exact .done _

/-- A run is a sequence of acts. -/
theorem trail_run (s : Service) (events : List Event) :
    Trail s.core (s.run events).2 (s.run events).1.core := by
  induction events generalizing s with
  | nil => exact .done _
  | cons event rest ih => exact (trail_step s event).trans (ih (s.step event).1)

end Service

end Collector

end Flowmeter
