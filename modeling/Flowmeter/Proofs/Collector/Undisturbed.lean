import Flowmeter.Proofs.Collector.Tally

/-!
# Calls that nothing disturbs

Where no call runs out of time, nothing is cancelled and every reading yields the same, calls can
only take their turns. Their turns are then in one of four phases: nobody is active; the first of
those who wait has been woken; it waits for its reading; its reading has finished. A step that is
no new call either leaves everything as it is or leads on from one phase to the next, and this
is all that later modules use of what a step does. Each call goes through three phases, so the work
that is left becomes less by one whenever anything happens.

The phases say more than which calls there are: they fix the lock, who holds it and what is being
read. That is why the number of a step can be told from the phase alone, and why whatever names
another call or another reading is lost on the collector. Said less exactly, the phases would need
two invariants beside them: that only the first of those who wait is ever woken, and that a reading
does not outlive the call that began it.

What the machine keeps besides its turns is split from them here. `Standing` has what a cycle reads
and writes of it and leaves out the two times it stamps, since a call alone and the same call in a
crowd end at different moments. `digest_congr` then carries a standing through a cycle, and nothing
later has to open a cycle again.
-/

set_option autoImplicit false

namespace Flowmeter.Collector

open History

variable {outcome : Except Files.Fault String} {call : Call} {rest active : List Call}

/-! ## Phases -/

/-- Waiters that have not been woken. -/
def asleep (calls : List Call) : List Waiter := calls.map (⟨·, false⟩)

/-- Who sleeps is who was put to sleep, in their order. -/
theorem map_call_asleep (calls : List Call) : (asleep calls).map (·.call) = calls := by
  simp [asleep, Function.comp_def]

theorem not_woken_of_asleep {calls : List Call} {w : Waiter} (h : w ∈ asleep calls) :
    w.woken = false := by
  obtain ⟨call, -, rfl⟩ := List.mem_map.mp h
  rfl

namespace Turns

/-- Nobody has the lock or waits for it, and nothing is being read. -/
structure Idle (t : Turns) : Prop where
  lock : t.lock = Lock.free
  holders : t.holders = []
  unfinished : t.unfinished = []

/-- The lock has been let go, and the first of those who wait has been woken. -/
structure Woken (t : Turns) (call : Call) (rest : List Call) : Prop where
  lock : t.lock = ⟨false, ⟨call, true⟩ :: asleep rest⟩
  holders : t.holders = []
  unfinished : t.unfinished = []

/-- A call has the lock and waits for a reading. -/
structure Reading (t : Turns) (call : Call) (reading : Nat) (rest : List Call) : Prop where
  lock : t.lock = ⟨true, asleep rest⟩
  holders : t.holders = [⟨call, some reading, none⟩]
  unfinished : t.unfinished = [reading]

/-- A call has the lock and what its reading has yielded. -/
structure Finished (t : Turns) (outcome : Except Files.Fault String) (call : Call)
    (rest : List Call) : Prop where
  lock : t.lock = ⟨true, asleep rest⟩
  holders : ∃ reading, t.holders = [⟨call, some reading, some outcome⟩]
  unfinished : t.unfinished = []

/-- The phases in which calls are found that nothing disturbs, with those that have not ended. -/
inductive Phase (outcome : Except Files.Fault String) (t : Turns) : List Call → Prop
  | idle (h : t.Idle) : Phase outcome t []
  | woken {call : Call} {rest : List Call} (h : t.Woken call rest) :
      Phase outcome t (call :: rest)
  | reading {call : Call} {reading : Nat} {rest : List Call} (h : t.Reading call reading rest) :
      Phase outcome t (call :: rest)
  | finished {call : Call} {rest : List Call} (h : t.Finished outcome call rest) :
      Phase outcome t (call :: rest)

variable {t : Turns} {reading : Nat}

/-- The list that a phase is told with is the list of those who have not ended: the phases forget
    nobody. -/
theorem Phase.active_eq (h : t.Phase outcome active) : t.active = active := by
  cases h with
  | idle h =>
    rw [Turns.active, h.lock, h.holders]
    rfl
  | woken h =>
    rw [Turns.active, h.lock, h.holders, List.map_cons, map_call_asleep]
    rfl
  | reading h =>
    rw [Turns.active, h.lock, h.holders, map_call_asleep]
    rfl
  | finished h =>
    obtain ⟨reading, hholders⟩ := h.holders
    rw [Turns.active, h.lock, hholders, map_call_asleep]
    rfl

/-- The guard at the head of a reading asks for the last reading only. Where none is unfinished
    at all it lets everybody through, whichever was the last. -/
theorem isReading_of_unfinished_nil (h : t.unfinished = []) : t.isReading = false := by
  rw [isReading, h]
  cases t.lastReading <;> rfl

/-! ## From one phase to the next

One lemma for each way on. None of them mentions the collector: the turns are a part of it that
moves by itself, and what a step does to the rest is said where the steps are. -/

/-- A call that has just taken the lock begins its reading. -/
theorem reading_of_hold (hholders : t.holders = []) (hunfinished : t.unfinished = [])
    (hothers : t.lock.others call = asleep rest) :
    ((t.hold call).beginReading call).Reading call t.readingsBegun rest where
  lock := by simp [hold, beginReading, Lock.take, hothers]
  holders := by simp [hold, beginReading, hholders]
  unfinished := by simp [hold, beginReading, hunfinished]

theorem Idle.letIn (h : t.Idle) (call : Call) :
    ((t.letIn call).beginReading call).Reading call t.readingsBegun [] := by
  have hothers : t.lock.others call = asleep [] := by
    rw [h.lock]
    rfl
  obtain ⟨hlock, hholders, hunfinished⟩ :=
    reading_of_hold h.holders h.unfinished hothers
  exact ⟨hlock, hholders, hunfinished⟩

/-- The woken call takes the lock. That nobody else has its number is needed: the lock strikes
    out by number, and calls behind it must stay. -/
theorem Woken.hold (h : t.Woken call rest) (hnew : call ∉ rest) :
    ((t.hold call).beginReading call).Reading call t.readingsBegun rest := by
  refine reading_of_hold h.holders h.unfinished ?_
  have hothers : (asleep rest).filter (fun w => w.call ≠ call) = asleep rest := by
    refine List.filter_eq_self.mpr fun w hw => ?_
    obtain ⟨other, hother, rfl⟩ := List.mem_map.mp hw
    refine decide_eq_true ?_
    rintro rfl
    exact hnew hother
  -- taking the lock strikes out whoever has this number, which is the woken one alone
  rw [Lock.others, h.lock, List.filter_cons_of_neg (by simp), hothers]

theorem Reading.finish (h : t.Reading call reading rest)
    (outcome : Except Files.Fault String) :
    (t.finish reading outcome).Finished outcome call rest where
  lock := h.lock
  holders := ⟨reading, by simp [Turns.finish, h.holders]⟩
  unfinished := by simp [Turns.finish, h.unfinished]

/-- Letting go wakes the next in the line, if there is one. -/
theorem Finished.release (h : t.Finished outcome call rest) :
    (t.release call).Phase outcome rest := by
  obtain ⟨reading, hholders⟩ := h.holders
  have hnone : (t.release call).holders = [] := by simp [Turns.release, hholders]
  cases rest with
  | nil => exact .idle ⟨by rw [Turns.release, h.lock]; rfl, hnone, h.unfinished⟩
  | cons next rest => exact .woken ⟨by rw [Turns.release, h.lock]; rfl, hnone, h.unfinished⟩

/-- Behind a call that has not ended a new one has to wait. -/
theorem Phase.queue (h : t.Phase outcome active) (hactive : active ≠ []) (new : Call) :
    t.lock.isFree = false ∧ (t.queue new).Phase outcome (active ++ [new]) := by
  have hasleep : ∀ rest, asleep rest ++ [⟨new, false⟩] = asleep (rest ++ [new]) := fun rest => by
    simp [asleep]
  cases h with
  | idle h => exact absurd rfl hactive
  | woken h =>
    refine ⟨by simp [h.lock, Lock.isFree], .woken ⟨?_, h.holders, h.unfinished⟩⟩
    simp [Turns.queue, Lock.join, h.lock, hasleep]
  | reading h =>
    refine ⟨by simp [h.lock, Lock.isFree], .reading ⟨?_, h.holders, h.unfinished⟩⟩
    simp [Turns.queue, Lock.join, h.lock, hasleep]
  | finished h =>
    refine ⟨by simp [h.lock, Lock.isFree], .finished ⟨?_, h.holders, h.unfinished⟩⟩
    simp [Turns.queue, Lock.join, h.lock, hasleep]

/-! ## The work that is left

Three steps for a call that waits, two once it reads, one when its reading is over. The measure
counts over the holders as if there could be several, so that it is defined in every state; the
phases then say that there is one at most. -/

/-- How many steps the calls that have not ended are still away from their ends. -/
def work (t : Turns) : Nat :=
  (t.holders.map fun h => if h.outcome.isSome then 1 else 2).sum + 3 * t.lock.waiters.length

theorem Idle.work_eq (h : t.Idle) : t.work = 0 := by
  simp [work, h.lock, h.holders, Lock.free]

theorem Woken.work_eq (h : t.Woken call rest) : t.work = 3 * (rest.length + 1) := by
  simp [work, h.lock, h.holders, asleep]

theorem Reading.work_eq (h : t.Reading call reading rest) : t.work = 2 + 3 * rest.length := by
  simp [work, h.lock, h.holders, asleep]

theorem Finished.work_eq (h : t.Finished outcome call rest) : t.work = 1 + 3 * rest.length := by
  obtain ⟨reading, hholders⟩ := h.holders
  simp [work, h.lock, hholders, asleep]

/-- A call that joins the line brings its three steps along and takes none from the others. -/
theorem work_queue (t : Turns) (new : Call) : (t.queue new).work = t.work + 3 := by
  simp [work, queue, Lock.join]
  omega

/-- No work is left just when nobody is left, so a run that cannot go on has ended all its calls. -/
theorem Phase.work_eq_zero_iff (h : t.Phase outcome active) : t.work = 0 ↔ active = [] := by
  cases h with
  | idle h => simp [h.work_eq]
  | woken h => simp [h.work_eq]
  | reading h => simp [h.work_eq]
  | finished h => simp [h.work_eq]

theorem Phase.work_le (h : t.Phase outcome active) : t.work ≤ 3 * active.length := by
  cases h with
  | idle h => exact h.work_eq.le
  | woken h => exact h.work_eq.le
  | reading h =>
    rw [h.work_eq, List.length_cons]
    omega
  | finished h =>
    rw [h.work_eq, List.length_cons]
    omega

end Turns

namespace Service

variable {s t : Service} {reading : Nat}

/-! ## What cycles make of a collector

Two collectors that stand alike stay alike over the same reading, whatever the hour. -/

/-- What a cycle starts from and changes, the times left out. -/
structure Standing where
  table : String
  timing : Timing
  accounts : Accounts
  tally : Tally

def standing (s : Service) : Standing := ⟨s.table, s.timing, s.accounts, s.tally⟩

theorem standing_fail (h : s.standing = t.standing) (failure : Failure) :
    (s.fail failure).1.standing = (t.fail failure).1.standing := by
  obtain ⟨htable, htiming, haccounts, htally⟩ := Standing.mk.inj h
  obtain ⟨hcycles, hfailures, -⟩ := Tally.mk.inj htally
  simp [fail, standing, tally, htable, htiming, haccounts, hcycles, hfailures]

theorem standing_publish (h : s.standing = t.standing) (survey : Survey)
    (now milliseconds now' milliseconds' : Nat) :
    (s.publish survey now milliseconds).1.standing =
      (t.publish survey now' milliseconds').1.standing := by
  obtain ⟨htable, htiming, haccounts, htally⟩ := Standing.mk.inj h
  obtain ⟨hcycles, hfailures, -⟩ := Tally.mk.inj htally
  simp [publish, standing, tally, htable, htiming, haccounts, hcycles, hfailures]

/-- What a cycle leaves depends on what it starts from and on what has been read, and not on when
    it ends. -/
theorem digest_congr (h : s.standing = t.standing) (outcome : Except Files.Fault String)
    (now milliseconds now' milliseconds' : Nat) :
    (s.digest outcome now milliseconds).1.standing =
      (t.digest outcome now' milliseconds').1.standing := by
  obtain ⟨htable, htiming, -, -⟩ := Standing.mk.inj h
  cases outcome with
  | error fault =>
    rw [digest, digest, htable, htiming]
    split
    · exact standing_fail h _
    · exact h
  | ok text =>
    rw [digest, digest]
    cases Survey.ofText text with
    | error fault => exact h
    | ok survey =>
      by_cases hnone : survey.accepted = 0
      · simp only [digestSurvey, if_pos hnone]
        exact standing_fail h _
      · simp only [digestSurvey, if_neg hnone]
        exact standing_publish h survey _ _ _ _

/-- The result needs no standing at all: what has been read decides it. -/
theorem digest_result (s t : Service) (outcome : Except Files.Fault String)
    (now milliseconds now' milliseconds' : Nat) :
    (s.digest outcome now milliseconds).2.2 = (t.digest outcome now' milliseconds').2.2 := by
  cases outcome with
  | error fault =>
    rw [digest, digest]
    -- whether a fault is a failure lies in its number, not in the table or the limit
    unfold Failure.ofFault?
    cases fault.problem.number? <;> rfl
  | ok text =>
    rw [digest, digest]
    cases Survey.ofText text with
    | error fault => rfl
    | ok survey =>
      by_cases hnone : survey.accepted = 0
      · simp only [digestSurvey, if_pos hnone]
        rfl
      · simp only [digestSurvey, if_neg hnone]
        rfl

theorem turns_digest (outcome : Except Files.Fault String) (now milliseconds : Nat) :
    (s.digest outcome now milliseconds).1.turns = s.turns :=
  -- who holds the lock plays no part in it, so any holder will do
  ((verdict_digest outcome now milliseconds).ending (h := ⟨⟨0, .client 0⟩, none, some outcome⟩)).2.1

/-! ## Steps

Each step of a phase written out as the state and the effects it yields. These equations are the
only place where `Service.step` is opened. -/

/-- An event that breaks nothing off, if the readings yield `outcome`. -/
def Event.Undisturbed (outcome : Except Files.Fault String) : Event → Prop
  | .call _ | .enter _ | .conclude _ _ _ => True
  | .finish _ yielded => yielded = outcome
  | _ => False

/-- The client that makes a new call. -/
def Event.client? : Event → Option Nat
  | .call client => some client
  | _ => none

/-- The state in which a call has taken the lock and begun its reading. -/
theorem proceed_eq (h : s.turns.isReading = false) (call : Call) :
    s.proceed call = ({ s with turns := s.turns.beginReading call },
      [.readingBegun call s.turns.readingsBegun]) := by
  rw [proceed, if_neg (by rw [h]; exact Bool.false_ne_true)]

/-- To an idle collector a call is let in and reads at once, all in one step. -/
theorem step_call_of_idle (h : s.turns.Idle) (client : Nat) (hcall : call =
    s.turns.nextCall (.client client)) : s.step (.call client) =
      ({ s with turns := (s.turns.letIn call).beginReading call },
        [.called call, .entered call, .readingBegun call s.readingsBegun]) := by
  have hfree : s.turns.lock.isFree = true := by rw [h.lock]; rfl
  have hidle := Turns.isReading_of_unfinished_nil h.unfinished
  have hproceed := proceed_eq (s := { s with turns := s.turns.letIn call }) hidle call
  rw [step, ask, if_pos hfree, ← hcall]
  simp only [hproceed]
  rfl

/-- Behind others it is called and waits, and nothing else happens. -/
theorem step_call_of_busy (h : s.turns.lock.isFree = false) (client : Nat) (hcall : call =
    s.turns.nextCall (.client client)) : s.step (.call client) =
      ({ s with turns := s.turns.queue call }, [.called call]) := by
  rw [step, ask, if_neg (by rw [h]; exact Bool.false_ne_true), hcall]

theorem step_enter_of_woken (h : s.turns.Woken call rest) :
    s.step (.enter call.number) =
      ({ s with turns := (s.turns.hold call).beginReading call },
        [.entered call, .readingBegun call s.readingsBegun]) := by
  have hfirst : s.turns.waiter? call.number = some ⟨call, true⟩ := by
    rw [Turns.waiter?, h.lock]
    exact List.find?_cons_of_pos (decide_eq_true rfl)
  have hidle := Turns.isReading_of_unfinished_nil h.unfinished
  have hproceed := proceed_eq (s := { s with turns := s.turns.hold call }) hidle call
  rw [step, hfirst]
  simp only [enter, if_true, hproceed]
  rfl

theorem step_finish_of_reading (h : s.turns.Reading call reading rest)
    (outcome : Except Files.Fault String) :
    s.step (.finish reading outcome) =
      ({ s with turns := s.turns.finish reading outcome },
        [.readingFinished reading outcome]) := by
  rw [step, if_pos]
  rw [h.unfinished]
  exact List.mem_singleton_self reading

theorem step_conclude_of_finished (h : s.turns.Finished outcome call rest)
    (now milliseconds : Nat) :
    s.step (.conclude call.number now milliseconds) =
      conclude call (s.digest outcome now milliseconds) := by
  obtain ⟨reading, hholders⟩ := h.holders
  have hfound : s.turns.holder? call.number = some ⟨call, some reading, some outcome⟩ := by
    rw [Turns.holder?, hholders]
    exact List.find?_cons_of_pos (decide_eq_true rfl)
  rw [step, hfound]

/-- A call that ends lets go of the lock, whatever its cycle came to. -/
theorem turns_conclude (call : Call) (outcome : Except Files.Fault String)
    (now milliseconds : Nat) :
    (conclude call (s.digest outcome now milliseconds)).1.turns = s.turns.release call := by
  rw [← turns_digest (s := s) outcome now milliseconds]
  rfl

theorem standing_conclude (call : Call) (verdict : Service × List Notice × Result) :
    (conclude call verdict).1.standing = verdict.1.standing := rfl

/-! ## What can happen

The last case is the large one: whatever names a call that is not the one to move, or a reading that
is not under way, changes nothing and leaves no trace. To have it as a case of its own lets every
invariant be looked at five times and not twenty. -/

/-- What an undisturbed event can be to a collector in one of the phases. -/
inductive Happens (outcome : Except Files.Fault String) (s : Service) : List Call → Event → Prop
  | first (h : s.turns.Idle) (client : Nat) : Happens outcome s [] (.call client)
  | later {active : List Call} (h : s.turns.Phase outcome active) (hactive : active ≠ [])
      (client : Nat) : Happens outcome s active (.call client)
  | enter {call : Call} {rest : List Call} (h : s.turns.Woken call rest) :
      Happens outcome s (call :: rest) (.enter call.number)
  | finish {call : Call} {reading : Nat} {rest : List Call}
      (h : s.turns.Reading call reading rest) :
      Happens outcome s (call :: rest) (.finish reading outcome)
  | conclude {call : Call} {rest : List Call} (h : s.turns.Finished outcome call rest)
      (now milliseconds : Nat) :
      Happens outcome s (call :: rest) (.conclude call.number now milliseconds)
  | nothing {active : List Call} {event : Event} (h : s.turns.Phase outcome active)
      (hevent : event.client? = none) (hstep : s.step event = (s, [])) :
      Happens outcome s active event

/-- A call that sleeps is not let in. -/
theorem step_enter_of_asleep {number : Nat}
    (h : ∀ w ∈ s.turns.waiter? number, w.woken = false) : s.step (.enter number) = (s, []) := by
  rw [step]
  cases hw : s.turns.waiter? number with
  | none => rfl
  | some w =>
    show s.enter w = _
    rw [enter, h w hw, if_neg Bool.false_ne_true]

/-- A reading that is not under way cannot end. -/
theorem step_finish_of_not_mem (h : reading ∉ s.turns.unfinished)
    (outcome : Except Files.Fault String) : s.step (.finish reading outcome) = (s, []) := by
  rw [step, if_neg h]

/-- Nor can a call that still waits for its reading. -/
theorem step_conclude_of_waiting {number : Nat}
    (h : ∀ holder ∈ s.turns.holder? number, holder.outcome = none) (now milliseconds : Nat) :
    s.step (.conclude number now milliseconds) = (s, []) := by
  rw [step]
  cases hh : s.turns.holder? number with
  | none => rfl
  | some holder =>
    have hnone := h holder hh
    obtain ⟨call, reading, outcome⟩ := holder
    cases hnone
    rfl

/-- Entering means something in one phase only, and for one call. -/
theorem happens_enter (h : s.turns.Phase outcome active) (number : Nat) :
    Happens outcome s active (.enter number) := by
  -- in all phases but one whoever waits is asleep
  have hasleep : ∀ {held : Bool} {calls : List Call}, s.turns.lock = ⟨held, asleep calls⟩ →
      s.step (.enter number) = (s, []) := fun hlock => by
    refine step_enter_of_asleep fun w hw => ?_
    rw [Turns.waiter?, hlock] at hw
    exact not_woken_of_asleep (List.mem_of_find?_eq_some hw)
  cases h with
  | idle h =>
    have hlock : s.turns.lock = ⟨false, asleep []⟩ := h.lock
    -- a free lock is one with nobody asleep at it
    exact .nothing (.idle h) rfl (hasleep hlock)
  | reading h => exact .nothing (.reading h) rfl (hasleep h.lock)
  | finished h => exact .nothing (.finished h) rfl (hasleep h.lock)
  | @woken call rest h =>
    by_cases hnumber : call.number = number
    · rw [← hnumber]
      exact .enter h
    · refine .nothing (.woken h) rfl (step_enter_of_asleep fun w hw => ?_)
      rw [Turns.waiter?, h.lock, List.find?_cons_of_neg (by simpa using hnumber)] at hw
      exact not_woken_of_asleep (List.mem_of_find?_eq_some hw)

theorem happens_finish (h : s.turns.Phase outcome active) (reading : Nat) :
    Happens outcome s active (.finish reading outcome) := by
  have hnone : s.turns.unfinished = [] → s.step (.finish reading outcome) = (s, []) := fun hnil =>
    step_finish_of_not_mem (by rw [hnil]; exact List.not_mem_nil) outcome
  cases h with
  | idle h => exact .nothing (.idle h) rfl (hnone h.unfinished)
  | woken h => exact .nothing (.woken h) rfl (hnone h.unfinished)
  | finished h => exact .nothing (.finished h) rfl (hnone h.unfinished)
  | @reading call own rest h =>
    by_cases hreading : reading = own
    · rw [hreading]
      exact .finish h
    · refine .nothing (.reading h) rfl (step_finish_of_not_mem ?_ outcome)
      rw [h.unfinished, List.mem_singleton]
      exact hreading

theorem happens_conclude (h : s.turns.Phase outcome active) (number now milliseconds : Nat) :
    Happens outcome s active (.conclude number now milliseconds) := by
  -- a call goes on only when it has the lock and its reading has finished
  have hnobody : s.turns.holders = [] → s.step (.conclude number now milliseconds) = (s, []) :=
    fun hnil => step_conclude_of_waiting (fun holder hh => by
      rw [Turns.holder?, hnil] at hh
      cases hh) now milliseconds
  cases h with
  | idle h => exact .nothing (.idle h) rfl (hnobody h.holders)
  | woken h => exact .nothing (.woken h) rfl (hnobody h.holders)
  | reading h =>
    refine .nothing (.reading h) rfl (step_conclude_of_waiting (fun holder hh => ?_) _ _)
    rw [Turns.holder?, h.holders] at hh
    rw [List.mem_singleton.mp (List.mem_of_find?_eq_some hh)]
  | @finished call rest h =>
    by_cases hnumber : call.number = number
    · rw [← hnumber]
      exact .conclude h now milliseconds
    · obtain ⟨reading, hholders⟩ := h.holders
      refine .nothing (.finished h) rfl (step_conclude_of_waiting (fun holder hh => ?_) _ _)
      rw [Turns.holder?, hholders, List.find?_cons_of_neg (by simpa using hnumber)] at hh
      cases hh

/-- **Every undisturbed step is one of six.** -/
theorem happens (h : s.turns.Phase outcome active) {event : Event}
    (hevent : event.Undisturbed outcome) : Happens outcome s active event := by
  cases event with
  | call client =>
    by_cases hactive : active = []
    · subst hactive
      cases h with
      | idle h => exact .first h client
    · exact .later h hactive client
  | enter number => exact happens_enter h number
  | finish reading yielded =>
    rw [show yielded = outcome from hevent]
    exact happens_finish h reading
  | conclude number now milliseconds => exact happens_conclude h number now milliseconds
  | _ => exact hevent.elim

/-! ## The work that a step does

What each of the six does to the measure. Together they bound a run from both sides: it cannot take
more steps that matter than there is work, and while there is work one can be taken. -/

/-- A new call means three steps at most. -/
theorem work_call (h : s.turns.Phase outcome active) (client : Nat) :
    (s.step (.call client)).1.turns.work ≤ s.turns.work + 3 := by
  by_cases hactive : active = []
  · subst hactive
    cases h with
    | idle h =>
      rw [step_call_of_idle h client rfl, (h.letIn _).work_eq, h.work_eq]
      decide
  · have hbusy := (h.queue hactive (s.turns.nextCall (.client client))).1
    rw [step_call_of_busy hbusy client rfl]
    exact (Turns.work_queue _ _).le

/-- The step that takes the lock is the first of three. -/
theorem work_enter (h : s.turns.Woken call rest) (hnew : call ∉ rest) :
    (s.step (.enter call.number)).1.turns.work + 1 = s.turns.work := by
  rw [step_enter_of_woken h, (h.hold hnew).work_eq, h.work_eq]
  omega

theorem work_finish (h : s.turns.Reading call reading rest)
    (outcome : Except Files.Fault String) :
    (s.step (.finish reading outcome)).1.turns.work + 1 = s.turns.work := by
  rw [step_finish_of_reading h, (h.finish outcome).work_eq, h.work_eq]
  omega

theorem work_conclude (h : s.turns.Finished outcome call rest) (now milliseconds : Nat) :
    (s.step (.conclude call.number now milliseconds)).1.turns.work + 1 = s.turns.work := by
  have hreleased : (s.turns.release call).work = 3 * rest.length := by
    -- who is woken next still has three steps to go
    obtain ⟨reading, hholders⟩ := h.holders
    cases rest <;> simp [Turns.work, Turns.release, Lock.release, Lock.wakeFirst, h.lock,
      hholders, asleep]
  rw [step_conclude_of_finished h, turns_conclude, hreleased, h.work_eq]
  omega

/-- Whatever else happens takes one step off, if it happens at all. -/
theorem Happens.work {event : Event} (h : Happens outcome s active event)
    (hnodup : active.Nodup) (hevent : event.client? = none) :
    s.step event = (s, []) ∨ (s.step event).1.turns.work + 1 = s.turns.work := by
  cases h with
  | first => cases hevent
  | later => cases hevent
  | nothing h hevent hstep => exact Or.inl hstep
  | enter h => exact Or.inr (work_enter h (List.nodup_cons.mp hnodup).1)
  | finish h => exact Or.inr (work_finish h outcome)
  | conclude h now milliseconds => exact Or.inr (work_conclude h now milliseconds)

/-- As long as a call has not ended there is a step to be taken. -/
theorem exists_work (h : s.turns.Phase outcome active) (hnodup : active.Nodup)
    (hactive : active ≠ []) :
    ∃ event : Event, event.Undisturbed outcome ∧ event.client? = none ∧
      (s.step event).1.turns.work + 1 = s.turns.work := by
  cases h with
  | idle => exact absurd rfl hactive
  | @woken call rest h =>
    exact ⟨.enter call.number, trivial, rfl, work_enter h (List.nodup_cons.mp hnodup).1⟩
  | @reading call reading rest h =>
    exact ⟨.finish reading outcome, rfl, rfl, work_finish h outcome⟩
  | @finished call rest h =>
    exact ⟨.conclude call.number 0 0, trivial, rfl, work_conclude h 0 0⟩

end Service

end Flowmeter.Collector
