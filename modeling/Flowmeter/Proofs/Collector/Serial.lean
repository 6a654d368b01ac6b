import Flowmeter.Proofs.Collector.Discipline
import Flowmeter.Proofs.Collector.Undisturbed
import Mathlib.Logic.Function.Iterate

/-!
# Calls at once and calls in turn

Calls that nothing disturbs are served one after the other, in the order in which they were made,
and what a cycle comes to depends only on what the cycles before it have left and on what is read.
So when all have ended it makes no difference whether each was made after the one before had
returned or all of them at once. What is carried along a run is that the calls made are those
that have ended and those that have not, in this order, and that the collector stands where as
many cycles lead as calls have ended.

A direct proof would match the steps of one run with those of the other, and the events of the two
are not the same: at once there are wakings that in turn never occur, and the order of everything
but the calls differs. So the two runs are not compared at all. `Served` says of any run where it
has led, in words that depend only on who has called, and both runs are shown to be `Served`; where
nobody is left there is but one such place (`Served.unique`).

The times at which calls go on are the one thing that differs for good. They are stamped on the
collector and read by nobody in it, and `standing` leaves them out.
-/

set_option autoImplicit false

namespace Flowmeter.Collector

open History

/-- The calls of some clients, numbered in order. -/
def newCalls : Nat → List Nat → List Call
  | _, [] => []
  | number, client :: rest => ⟨number, .client client⟩ :: newCalls (number + 1) rest

/-- Numbers go on where the first clients have left them. -/
theorem newCalls_append (number : Nat) (clients more : List Nat) :
    newCalls number (clients ++ more) =
      newCalls number clients ++ newCalls (number + clients.length) more := by
  induction clients generalizing number with
  | nil => rfl
  | cons client rest ih =>
    rw [List.cons_append, newCalls, newCalls, ih, List.length_cons, Nat.add_right_comm,
      ← Nat.add_assoc]
    rfl

theorem map_caller_newCalls (number : Nat) (clients : List Nat) :
    (newCalls number clients).map (·.caller) = clients.map Caller.client := by
  induction clients generalizing number with
  | nil => rfl
  | cons client rest ih => rw [newCalls, List.map_cons, List.map_cons, ih]

theorem length_newCalls (number : Nat) (clients : List Nat) :
    (newCalls number clients).length = clients.length := by
  simpa using congrArg List.length (map_caller_newCalls number clients)

/-- No call is numbered below where the numbering begins, from which the calls of one collector
    are all different. -/
theorem le_number_of_mem {number : Nat} {clients : List Nat} {call : Call}
    (h : call ∈ newCalls number clients) : number ≤ call.number := by
  induction clients generalizing number with
  | nil => cases h
  | cons client rest ih =>
    rcases List.mem_cons.mp h with rfl | h
    · exact le_rfl
    · exact (Nat.le_succ number).trans (ih h)

theorem newCalls_nodup (number : Nat) (clients : List Nat) : (newCalls number clients).Nodup := by
  induction clients generalizing number with
  | nil => exact List.nodup_nil
  | cons client rest ih =>
    refine List.nodup_cons.mpr ⟨fun h => ?_, ih (number + 1)⟩
    exact absurd (le_number_of_mem h) (Nat.not_succ_le_self number)

namespace Service

variable {s t : Service} {outcome : Except Files.Fault String}

/-! ## Cycles one after the other

The collector that so many cycles have left, with the turns forgotten: cycles are put one behind the
other without a lock, which is what a run is to be compared with. -/

/-- The collector after some cycles that have all read the same. -/
def settled (s : Service) (outcome : Except Files.Fault String) (k : Nat) : Service :=
  (fun u : Service => (u.digest outcome 0 0).1)^[k] s

theorem settled_succ (s : Service) (outcome : Except Files.Fault String) (k : Nat) :
    s.settled outcome (k + 1) = ((s.settled outcome k).digest outcome 0 0).1 :=
  Function.iterate_succ_apply' _ k s

theorem settled_add (s : Service) (outcome : Except Files.Fault String) (j k : Nat) :
    s.settled outcome (j + k) = (s.settled outcome j).settled outcome k := by
  rw [settled, Nat.add_comm, Function.iterate_add_apply]
  rfl

/-- Where cycles lead depends on the standing they start from. -/
theorem settled_congr (h : s.standing = t.standing) (outcome : Except Files.Fault String)
    (k : Nat) : (s.settled outcome k).standing = (t.settled outcome k).standing := by
  induction k with
  | zero => exact h
  | succ k ih =>
    rw [settled_succ, settled_succ]
    exact digest_congr ih outcome 0 0 0 0

/-- Once a text has been published, publishing it again changes no account. -/
theorem accounts_settled {text : String} {snapshot : Snapshot}
    (h : Snapshot.ofText text = .ok snapshot) (s : Service) (k : Nat) :
    (s.settled (.ok text) (k + 1)).accounts = s.accounts.record snapshot := by
  have hdigest : ∀ u : Service, (u.digest (.ok text) 0 0).1.accounts =
      u.accounts.record snapshot := fun u => by
    obtain ⟨s', l, hdigest, haccounts⟩ := digest_of_snapshot (s := u) h 0 0
    rw [hdigest]
    exact haccounts
  -- the first cycle records the snapshot; the later ones record it upon itself
  induction k with
  | zero => rw [settled_succ, hdigest, settled, Function.iterate_zero_apply]
  | succ k ih => rw [settled_succ, hdigest, ih, Accounts.record_record]

/-! ## What has become of calls

The relation is told with the calls that were there before, so that it can be composed: those which
have not ended are what the next stretch begins with. The readings are counted with the holders on
both sides, since the reading of a call that holds the lock has begun and its cycle is not over. -/

/-- From a state in which some calls have not ended, and with those of some more clients, a
    collector comes to a state in which the first of them have ended, all alike. -/
structure Served (outcome : Except Files.Fault String) (s : Service) (before : List Call)
    (clients : List Nat) (next : Service × List Effect) (done active : List Call) : Prop where
  calls : before ++ newCalls s.turns.callsBegun clients = done ++ active
  phase : next.1.turns.Phase outcome active
  returns : returns next.2 = done.map (·, (s.digest outcome 0 0).2.2)
  standing : next.1.standing = (s.settled outcome done.length).standing
  readings : next.1.readingsBegun + s.turns.holders.length =
    s.readingsBegun + done.length + next.1.turns.holders.length
  callsBegun : next.1.turns.callsBegun = s.turns.callsBegun + clients.length

variable {before active active' done done' : List Call} {clients more : List Nat}
  {effects later : List Effect} {u : Service}

/-- Two stretches make one. What the first has left as cycles is where the second goes on, by
    `settled_add`. -/
theorem Served.trans (h : Served outcome s before clients (t, effects) done active)
    (h' : Served outcome t active more (u, later) done' active') :
    Served outcome s before (clients ++ more) (u, effects ++ later) (done ++ done') active' where
  calls := by
    have hcalls := h'.calls
    rw [h.callsBegun] at hcalls
    rw [newCalls_append, ← List.append_assoc, h.calls, List.append_assoc, hcalls,
      List.append_assoc]
  phase := h'.phase
  returns := by
    rw [returns_append, h.returns, h'.returns, List.map_append,
      digest_result t s outcome 0 0 0 0]
  standing := by
    rw [h'.standing, List.length_append, settled_add]
    exact settled_congr h.standing outcome done'.length
  readings := by
    have hfirst := h.readings
    have hsecond := h'.readings
    rw [List.length_append]
    -- the holders in the middle cancel
    simp only at hfirst hsecond ⊢
    omega
  callsBegun := by
    rw [h'.callsBegun, h.callsBegun, List.length_append, Nat.add_assoc]

/-- Calls are numbered when they are made, so no call is active twice. -/
theorem Served.nodup {next : Service × List Effect}
    (h : Served outcome s [] clients next done active) : active.Nodup := by
  have hall := newCalls_nodup s.turns.callsBegun clients
  rw [← List.nil_append (newCalls _ _), h.calls] at hall
  exact hall.of_append_right

/-- When all calls have ended, each has had the same result. -/
theorem Served.returns_eq {next : Service × List Effect}
    (h : Served outcome s [] clients next done []) :
    History.returns next.2 =
      (newCalls s.turns.callsBegun clients).map (·, (s.digest outcome 0 0).2.2) := by
  have hcalls := h.calls
  rw [List.nil_append, List.append_nil] at hcalls
  rw [h.returns, hcalls]

/-- A step by which no call ends. -/
theorem Served.of_silent (hcalls : before ++ newCalls s.turns.callsBegun clients = active)
    (hphase : t.turns.Phase outcome active) (hreturns : History.returns effects = [])
    (hstanding : t.standing = s.standing)
    (hreadings : t.readingsBegun + s.turns.holders.length =
      s.readingsBegun + t.turns.holders.length)
    (hcount : t.turns.callsBegun = s.turns.callsBegun + clients.length) :
    Served outcome s before clients (t, effects) [] active :=
  ⟨hcalls, hphase, hreturns, hstanding, hreadings, hcount⟩

/-- **The step.** Whatever happens, the calls go on to be served in order. -/
theorem Happens.served {event : Event} (h : Happens outcome s active event)
    (hnodup : active.Nodup) : ∃ done active',
      Served outcome s active event.client?.toList (s.step event) done active' := by
  cases h with
  | first h client =>
    -- one reading more and one holder more
    have hreading := h.letIn (s.turns.nextCall (.client client))
    rw [step_call_of_idle h client rfl]
    refine ⟨[], _, .of_silent rfl (.reading hreading) rfl rfl ?_ rfl⟩
    show s.readingsBegun + 1 + s.turns.holders.length = s.readingsBegun + List.length _
    rw [hreading.holders, h.holders]
    rfl
  | later h hactive client =>
    -- the call goes to the end of the line, where `newCalls` has it
    obtain ⟨hbusy, hphase⟩ := h.queue hactive (s.turns.nextCall (.client client))
    rw [step_call_of_busy hbusy client rfl]
    exact ⟨[], _, .of_silent rfl hphase rfl rfl rfl rfl⟩
  | enter h =>
    have hreading := h.hold (List.nodup_cons.mp hnodup).1
    rw [step_enter_of_woken h]
    refine ⟨[], _, .of_silent (List.append_nil _) (.reading hreading) rfl rfl ?_ rfl⟩
    show s.readingsBegun + 1 + s.turns.holders.length = s.readingsBegun + List.length _
    rw [hreading.holders, h.holders]
    rfl
  | finish h =>
    obtain ⟨own, hholders⟩ := (h.finish outcome).holders
    rw [step_finish_of_reading h]
    refine ⟨[], _, .of_silent (List.append_nil _) (.finished (h.finish outcome)) rfl rfl ?_ rfl⟩
    show s.readingsBegun + s.turns.holders.length = s.readingsBegun + List.length _
    rw [hholders, h.holders]
    rfl
  | @conclude call rest h now milliseconds =>
    have hturns := turns_conclude (s := s) call outcome now milliseconds
    obtain ⟨own, hholders⟩ := h.holders
    rw [step_conclude_of_finished h]
    -- the only step by which a call ends, and it is the first of them
    refine ⟨[call], rest, List.append_nil _, ?_, ?_, ?_, ?_, ?_⟩
    · rw [hturns]
      exact h.release
    · rw [returns_conclude, digest_result s s outcome now milliseconds 0 0]
      rfl
    · rw [standing_conclude]
      exact digest_congr rfl outcome now milliseconds 0 0
    · rw [readingsBegun, hturns, hholders]
      simp [Turns.release, hholders, readingsBegun]
    · rw [hturns]
      rfl
  | nothing h hevent hstep =>
    rw [hstep, hevent]
    exact ⟨[], active, .of_silent (List.append_nil _) h rfl rfl rfl rfl⟩

/-- **The run.** From a state in which nobody is active the calls of all clients are served in
    the order in which they are made, as far as the events lead. -/
theorem served_run (hidle : s.turns.Idle) {events : List Event}
    (hevents : ∀ event ∈ events, event.Undisturbed outcome) : ∃ done active,
      Served outcome s [] (events.filterMap Event.client?) (s.run events) done active := by
  -- from the right, since a step goes on from where those before it have led
  induction events using List.reverseRecOn with
  | nil => exact ⟨[], [], .of_silent rfl (.idle hidle) rfl rfl rfl rfl⟩
  | append_singleton events event ih =>
    obtain ⟨done, active, hserved⟩ := ih fun e he => hevents e (List.mem_append_left _ he)
    have hevent := hevents event (List.mem_append_right _ (List.mem_singleton_self event))
    obtain ⟨done', active', hstep⟩ := (happens hserved.phase hevent).served hserved.nodup
    have hclient : [event].filterMap Event.client? = event.client?.toList := by
      cases hc : event.client? with
      | none => exact List.filterMap_cons_none hc
      | some client => exact List.filterMap_cons_some hc
    rw [run_snoc, List.filterMap_append, hclient]
    exact ⟨done ++ done', active', hserved.trans hstep⟩

/-- How far a run is from its end, counted by the calls made in it. -/
theorem work_run (hidle : s.turns.Idle) {events : List Event}
    (hevents : ∀ event ∈ events, event.Undisturbed outcome) :
    (s.run events).1.turns.work ≤ 3 * (events.filterMap Event.client?).length := by
  induction events using List.reverseRecOn with
  | nil => exact (hidle.work_eq).le
  | append_singleton events event ih =>
    have hbefore := fun e he => hevents e (List.mem_append_left _ he)
    have hevent := hevents event (List.mem_append_right _ (List.mem_singleton_self event))
    obtain ⟨done, active, hserved⟩ := served_run hidle hbefore
    have hwork := ih hbefore
    rw [run_snoc, List.filterMap_append, List.length_append]
    cases hclient : event.client? with
    | some client =>
      -- only a call has a client
      have hcall : event = .call client := by
        cases event <;> cases hclient
        rfl
      subst hcall
      refine (work_call hserved.phase client).trans ?_
      rw [List.filterMap_cons_some hclient]
      simp only [List.length_cons]
      omega
    | none =>
      rcases (happens hserved.phase hevent).work hserved.nodup hclient with hstay | hless
      · rw [hstay]
        exact hwork.trans (Nat.mul_le_mul_left 3 (Nat.le_add_right _ _))
      · simp only
        omega

/-! ## Calls in turn

In turn the numbers of calls and readings are known beforehand, since nobody else calls in between;
that is why the visits can be written down as a list of events at all. -/

/-- The events of some calls each of which is made when the one before has returned. A call goes
    on at the times that a clock shows it. -/
def visits (outcome : Except Files.Fault String) (clock : Nat → Nat × Nat) :
    Nat → Nat → List Nat → List Event
  | _, _, [] => []
  | call, reading, client :: rest =>
      .call client :: .finish reading outcome :: .conclude call (clock call).1 (clock call).2 ::
        visits outcome clock (call + 1) (reading + 1) rest

/-- The same for a collector in some state, which numbers its calls and its readings. -/
def inTurn (s : Service) (outcome : Except Files.Fault String) (clock : Nat → Nat × Nat)
    (clients : List Nat) : List Event :=
  visits outcome clock s.turns.callsBegun s.readingsBegun clients

/-- Nothing in a visit breaks anything off, so what holds of undisturbed runs holds of visits. -/
theorem undisturbed_visits (outcome : Except Files.Fault String) (clock : Nat → Nat × Nat)
    (call reading : Nat) (clients : List Nat) :
    ∀ event ∈ visits outcome clock call reading clients, event.Undisturbed outcome := by
  induction clients generalizing call reading with
  | nil => exact fun _ h => nomatch h
  | cons client rest ih =>
    refine List.forall_mem_cons.mpr ⟨trivial, List.forall_mem_cons.mpr ⟨rfl, ?_⟩⟩
    exact List.forall_mem_cons.mpr ⟨trivial, ih (call + 1) (reading + 1)⟩

theorem clients_visits (outcome : Except Files.Fault String) (clock : Nat → Nat × Nat)
    (call reading : Nat) (clients : List Nat) :
    (visits outcome clock call reading clients).filterMap Event.client? = clients := by
  induction clients generalizing call reading with
  | nil => rfl
  | cons client rest ih =>
    show client :: (visits outcome clock (call + 1) (reading + 1) rest).filterMap
      Event.client? = _
    rw [ih]

/-- One visit leads through all the phases and leaves the collector idle, with one call and one
    reading more. What comes later runs from there. -/
theorem idle_after_visit (hidle : s.turns.Idle) (outcome : Except Files.Fault String)
    (client now milliseconds : Nat) : ∃ u : Service, u.turns.Idle ∧
      u.turns.callsBegun = s.turns.callsBegun + 1 ∧ u.readingsBegun = s.readingsBegun + 1 ∧
      ∀ rest, (s.run (.call client :: .finish s.readingsBegun outcome ::
        .conclude s.turns.callsBegun now milliseconds :: rest)).1 = (u.run rest).1 := by
  let call := s.turns.nextCall (.client client)
  let begun := (s.step (.call client)).1
  have hbegun : begun.turns = (s.turns.letIn call).beginReading call :=
    congrArg (·.1.turns) (step_call_of_idle hidle client rfl)
  have hreading : begun.turns.Reading call s.readingsBegun [] := hbegun ▸ hidle.letIn call
  -- the four states are named, for a goal with the steps inside one another is past reading
  let read := (begun.step (.finish s.readingsBegun outcome)).1
  have hread : read.turns = begun.turns.finish s.readingsBegun outcome :=
    congrArg (·.1.turns) (step_finish_of_reading hreading outcome)
  have hfinished : read.turns.Finished outcome call [] := hread ▸ hreading.finish outcome
  let gone := (read.step (.conclude call.number now milliseconds)).1
  have hgone : gone.turns = read.turns.release call :=
    (congrArg (·.1.turns) (step_conclude_of_finished hfinished now milliseconds)).trans
      (turns_conclude call outcome now milliseconds)
  refine ⟨gone, ?_, ?_, ?_, fun rest => rfl⟩
  · rw [hgone]
    cases hfinished.release with
    | idle h => exact h
  · rw [hgone, Turns.release, hread, Turns.finish, hbegun]
    rfl
  · rw [readingsBegun, hgone, Turns.release, hread, Turns.finish, hbegun]
    rfl

/-- In turn every call finds the collector idle and leaves it so. -/
theorem idle_run_inTurn (hidle : s.turns.Idle) (outcome : Except Files.Fault String)
    (clock : Nat → Nat × Nat) (clients : List Nat) :
    (s.run (s.inTurn outcome clock clients)).1.turns.Idle := by
  induction clients generalizing s with
  | nil => exact hidle
  | cons client rest ih =>
    obtain ⟨u, hu, hcalls, hreadings, hrun⟩ := idle_after_visit hidle outcome client
      (clock s.turns.callsBegun).1 (clock s.turns.callsBegun).2
    rw [inTurn, visits, hrun, ← hcalls, ← hreadings]
    exact ih hu

/-- In turn all calls end. -/
theorem served_inTurn (hidle : s.turns.Idle) (outcome : Except Files.Fault String)
    (clock : Nat → Nat × Nat) (clients : List Nat) : ∃ done,
      Served outcome s [] clients (s.run (s.inTurn outcome clock clients)) done [] := by
  have hundisturbed := undisturbed_visits outcome clock s.turns.callsBegun s.readingsBegun clients
  obtain ⟨done, active, hserved⟩ := served_run hidle hundisturbed
  have hend : (s.run (s.inTurn outcome clock clients)).1.turns.Phase outcome [] :=
    .idle (idle_run_inTurn hidle outcome clock clients)
  have hactive : active = [] := hserved.phase.active_eq.symm.trans hend.active_eq
  subst hactive
  rw [clients_visits] at hserved
  exact ⟨done, hserved⟩

/-! ## At once and in turn

The hypotheses of the theorem below are about the history, which is what an onlooker sees. That the
lock is free and nothing is being read follows from them by the discipline of readings. -/

/-- An onlooker who has seen all calls end and all readings finish has seen the collector come to
    rest. -/
theorem idle_of_consistent {history : List Effect} (h : Consistent history s.core)
    (hended : ∀ call ∈ calls history, call ∈ ends history) (hread : underway history = []) :
    s.turns.Idle := by
  obtain ⟨hlock, hactive⟩ := h.lock_eq_free hended
  rw [Turns.active, List.append_eq_nil_iff, List.map_eq_nil_iff] at hactive
  exact ⟨hlock, hactive.1, h.readings.unfinished_nil (h.isReading_eq_false hread)⟩

/-- When the calls of some clients have all ended, it does not matter how they got there. -/
theorem Served.unique {next next' : Service × List Effect}
    (h : Served outcome s [] clients next done [])
    (h' : Served outcome s [] clients next' done' []) :
    History.returns next.2 = History.returns next'.2 ∧
      next.1.standing = next'.1.standing ∧ next.1.readingsBegun = next'.1.readingsBegun := by
  have hnobody : ∀ {t : Turns}, t.Phase outcome [] → t.holders = [] := fun h => by
    cases h with
    | idle h => exact h.holders
  have hdone : done = done' := by
    have hcalls := h.calls.symm.trans h'.calls
    rwa [List.append_nil, List.append_nil] at hcalls
  subst hdone
  have hreadings := h.readings
  have hreadings' := h'.readings
  rw [hnobody h.phase] at hreadings
  rw [hnobody h'.phase] at hreadings'
  refine ⟨h.returns_eq.trans h'.returns_eq.symm, h.standing.trans h'.standing.symm, ?_⟩
  omega

/-- From the first that publishes on, calls that read the same leave the accounts alone. -/
theorem Served.accounts_eq {next next' : Service × List Effect} {call : Call}
    (h : Served outcome s [] clients next done active)
    (h' : Served outcome s [] (clients.take 1) next' done' [])
    (hcall : (call, .published) ∈ History.returns next.2) :
    next.1.accounts = next'.1.accounts := by
  rw [h.returns] at hcall
  obtain ⟨call, hdone, hresult⟩ := List.mem_map.mp hcall
  obtain ⟨text, snapshot, rfl, hs⟩ :=
    (digest_published_iff outcome 0 0).mp (Prod.mk.inj hresult).2
  have haccounts : ∀ {k : Nat} {u : Service}, 0 < k →
      u.standing = (s.settled (.ok text) k).standing → u.accounts = s.accounts.record snapshot := by
    intro k u hk hu
    obtain ⟨j, rfl⟩ := Nat.exists_eq_succ_of_ne_zero hk.ne'
    exact (Standing.mk.inj hu).2.2.1.trans (accounts_settled hs s j)
  -- a call has ended, so there is a client, and in turn its call has ended too
  have hlength : 0 < done.length := List.length_pos_of_mem hdone
  have hclients : 0 < clients.length := by
    have hcalls := congrArg List.length h.calls
    rw [List.nil_append, length_newCalls, List.length_append] at hcalls
    omega
  have hlength' : 0 < done'.length := by
    have hcalls := congrArg List.length h'.calls
    rw [List.nil_append, length_newCalls, List.append_nil, List.length_take] at hcalls
    omega
  rw [haccounts hlength h.standing, haccounts hlength' h'.standing]

/-- **Calls at once are calls in turn.** Take a collector whose calls have all ended and whose
    readings have all finished, and any further events by which clients call, nothing is broken
    off, and every reading yields the same, be it a text or a fault.

    All calls come to their ends: at no time are more than three steps left for each, every event
    that is no call and does anything takes one off, and there is such an event until none are
    left. When they have ended, each client has had its result, and the results, the accounts, the
    tally and the number of readings begun are what they would be had each call been made
    after the one before had returned. From the first call that publishes on, the accounts are
    what that call alone would have made of them: no total and no count of connections goes on to
    change. -/
theorem calls_at_once_eq_in_turn (table : String) (timing : Timing) (earlier events : List Event)
    (outcome : Except Files.Fault String) (clock : Nat → Nat × Nat)
    (hended : ∀ call ∈ calls (historyAfter table timing earlier),
      call ∈ ends (historyAfter table timing earlier))
    (hread : underway (historyAfter table timing earlier) = [])
    (hevents : ∀ event ∈ events, event.Undisturbed outcome) :
    let s := after table timing earlier
    let clients := events.filterMap Event.client?
    let atOnce := s.run events
    let inTurn := s.run (s.inTurn outcome clock clients)
    (atOnce.1.turns.work ≤ 3 * clients.length ∧
      (atOnce.1.turns.work = 0 ↔ atOnce.1.turns.active = []) ∧
      (∀ event : Event, event.Undisturbed outcome → event.client? = none →
        atOnce.1.step event = (atOnce.1, []) ∨
          (atOnce.1.step event).1.turns.work + 1 = atOnce.1.turns.work) ∧
      (atOnce.1.turns.active ≠ [] → ∃ event : Event, event.Undisturbed outcome ∧
        event.client? = none ∧ (atOnce.1.step event).1.turns.work + 1 = atOnce.1.turns.work)) ∧
    (inTurn.1.turns.active = [] ∧
      (atOnce.1.turns.active = [] →
        (returns atOnce.2).map (·.1.caller) = clients.map Caller.client ∧
        returns atOnce.2 = returns inTurn.2 ∧
        atOnce.1.accounts = inTurn.1.accounts ∧
        atOnce.1.tally = inTurn.1.tally ∧
        atOnce.1.readingsBegun = inTurn.1.readingsBegun)) ∧
    (∀ call, (call, .published) ∈ returns atOnce.2 →
      atOnce.1.accounts = (s.run (s.inTurn outcome clock (clients.take 1))).1.accounts) := by
  intro s clients atOnce inTurn
  have hidle : s.turns.Idle :=
    idle_of_consistent (consistent_after table timing earlier) hended hread
  obtain ⟨done, active, hserved⟩ := served_run hidle hevents
  obtain ⟨done', hserved'⟩ := served_inTurn hidle outcome clock clients
  obtain ⟨done'', hfirst⟩ := served_inTurn hidle outcome clock (clients.take 1)
  have hactive : atOnce.1.turns.active = active := hserved.phase.active_eq
  refine ⟨⟨work_run hidle hevents, ?none, ?less, ?some⟩, ⟨hserved'.phase.active_eq, ?ended⟩,
    fun call => hserved.accounts_eq hfirst⟩
  case none =>
    rw [hactive]
    exact hserved.phase.work_eq_zero_iff
  case less =>
    intro event hevent hclient
    exact (happens hserved.phase hevent).work hserved.nodup hclient
  case some =>
    rw [hactive]
    exact exists_work hserved.phase hserved.nodup
  case ended =>
    rw [hactive]
    rintro rfl
    obtain ⟨hreturns, hstanding, hreadings⟩ := hserved.unique hserved'
    obtain ⟨-, -, haccounts, htally⟩ := Standing.mk.inj hstanding
    refine ⟨?_, hreturns, haccounts, htally, hreadings⟩
    have hcallers := map_caller_newCalls s.turns.callsBegun clients
    rw [hserved.returns_eq, List.map_map]
    exact hcallers

/-- Two clients call at once after a call that has run out of time. -/
theorem calls_at_once_eq_in_turn_afterTimeout :
    let outcome : Except Files.Fault String := .ok "ipv4 2 tcp src=a dst=b packets=5"
    let earlier : List Event := [.call 0, .expire 0, .finish 0 (.ok "late")]
    let events : List Event := [.call 1, .call 2, .enter 2, .finish 1 outcome, .conclude 1 8 3,
      .enter 2, .finish 2 outcome, .conclude 2 9 1]
    let s := after "/proc/net/nf_conntrack" ⟨60, 10⟩ earlier
    ((∀ call ∈ calls (historyAfter "/proc/net/nf_conntrack" ⟨60, 10⟩ earlier),
        call ∈ ends (historyAfter "/proc/net/nf_conntrack" ⟨60, 10⟩ earlier)) ∧
      underway (historyAfter "/proc/net/nf_conntrack" ⟨60, 10⟩ earlier) = [] ∧
      ∀ event ∈ events, event.Undisturbed outcome) ∧
    (s.run events).1.turns.active = [] ∧
    returns (s.run events).2 = [(⟨1, .client 1⟩, .published), (⟨2, .client 2⟩, .published)] ∧
    (s.run events).1.readingsBegun =
      (s.run (s.inTurn outcome (fun _ => (0, 0)) [1, 2])).1.readingsBegun ∧
    (s.run events).1.accounts = (s.run (s.inTurn outcome (fun _ => (0, 0)) [1])).1.accounts := by
  intro outcome earlier events s
  have hended : ∀ call ∈ calls (historyAfter "/proc/net/nf_conntrack" ⟨60, 10⟩ earlier),
      call ∈ ends (historyAfter "/proc/net/nf_conntrack" ⟨60, 10⟩ earlier) := by
    decide +kernel
  have hread : underway (historyAfter "/proc/net/nf_conntrack" ⟨60, 10⟩ earlier) = [] := rfl
  have hevents : ∀ event ∈ events, event.Undisturbed outcome := by
    simp [events, Event.Undisturbed]
  have hactive : (s.run events).1.turns.active = [] := by decide +kernel
  have hreturns : returns (s.run events).2 =
      [(⟨1, .client 1⟩, .published), (⟨2, .client 2⟩, .published)] := by
    decide +kernel
  obtain ⟨-, ⟨-, hsame⟩, hfirst⟩ := calls_at_once_eq_in_turn "/proc/net/nf_conntrack" ⟨60, 10⟩
    earlier events outcome (fun _ => (0, 0)) hended hread hevents
  refine ⟨⟨hended, hread, hevents⟩, hactive, hreturns, (hsame hactive).2.2.2.2, ?_⟩
  exact hfirst ⟨1, .client 1⟩ (by rw [hreturns]; exact List.mem_cons_self)

end Service

end Flowmeter.Collector
