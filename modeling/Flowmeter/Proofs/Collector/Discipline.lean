import Flowmeter.Proofs.Collector.Invariant

/-!
# The discipline of readings

At most one call is between taking the lock and letting it go, and at most one reading is under
way. A call publishes nothing but what its own reading has yielded, so what a reading yields
after its call has given up is published by nobody. And the discipline never blocks: when nobody
is between taking the lock and letting it go the next call can take it, and when no reading is
under way that call begins one.
-/

set_option autoImplicit false

namespace Flowmeter.Collector

open History

variable {history : List Effect} {c : Core}

/-! ## What the invariant says of a history -/

namespace Consistent

/-- At no time are two calls between taking the lock and letting it go. -/
theorem inside_le_one (h : Consistent history c) :
    ∀ before, before <+: history → (inside before).length ≤ 1 := by
  refine length_stillOpen_le_one fun before e call hbefore hentered => ?_
  have hrule := h.rules before e hbefore
  cases e with
  | entered call => exact hrule
  | _ => cases hentered

/-- A reading begins only when none is under way. -/
theorem underway_nil (h : Consistent history c) {before : List Effect} {call : Call}
    {reading : Nat} (hbefore : before ++ [.readingBegun call reading] <+: history) :
    underway before = [] :=
  h.rules before _ hbefore

/-- At no time are two readings under way. -/
theorem underway_le_one (h : Consistent history c) :
    ∀ before, before <+: history → (underway before).length ≤ 1 := by
  refine length_stillOpen_le_one fun before e reading hbefore hbegun => ?_
  cases e with
  | readingBegun call reading => exact h.underway_nil hbefore
  | _ => cases hbegun

/-- Nothing has been published, or what is published is the snapshot of the text that the last
    call to publish has read. -/
theorem published_eq (h : Consistent history c) :
    (publishers history = [] → c.accounts = Accounts.empty) ∧
    ∀ earlier call, publishers history = earlier ++ [call] →
      ∃ text snapshot, Read history call text ∧ Snapshot.ofText text = .ok snapshot ∧
        c.accounts.published.snapshot = snapshot := by
  obtain ⟨texts, hread, hok, haccounts⟩ := h.balanced
  constructor
  · intro hnone
    rw [hnone] at hread
    cases hread
    exact haccounts
  · intro earlier call hcalls
    rw [hcalls] at hread
    -- the last text is the one that stands opposite the last call
    have hlast := List.forall₂_drop_append texts earlier [call] hread.flip
    obtain ⟨text, hr, hdrop⟩ : ∃ text, Read history call text ∧
        texts.drop earlier.length = [text] := by
      generalize texts.drop earlier.length = rest at hlast
      cases hlast with
      | cons hr hnil =>
        cases hnil
        exact ⟨_, hr, rfl⟩
    have htexts : texts = texts.take earlier.length ++ [text] := by
      rw [← hdrop, List.take_append_drop]
    obtain ⟨snapshot, hs⟩ := hok text (by rw [htexts]; simp)
    refine ⟨text, snapshot, hr, hs, ?_⟩
    rw [haccounts, htexts, List.foldl_append, List.foldl_cons, List.foldl_nil, Accounts.cycle,
      hs]
    rfl

/-- A call that has published has ended in no other way. -/
theorem published_only (h : Consistent history c) {call : Call}
    (hcall : call ∈ publishers history) {e : Effect} (he : e ∈ history)
    (hended : e.ended? = some call) : e = .returned call .published := by
  obtain ⟨d, hd, hpublished⟩ := List.mem_filterMap.mp hcall
  have hdone : d = .returned call .published := by
    cases d with
    | returned other result =>
      cases result with
      | published =>
        cases hpublished
        rfl
      | _ => cases hpublished
    | _ => cases hpublished
  subst hdone
  exact ended_unique h.calls.endedOnce he hd hended rfl

/-- When every call has ended, the lock is as it was before the first. -/
theorem lock_eq_free (h : Consistent history c)
    (hended : ∀ call ∈ History.calls history, call ∈ ends history) :
    c.turns.lock = Lock.free ∧ c.turns.active = [] := by
  have hactive : c.turns.active = [] := by
    refine List.eq_nil_iff_forall_not_mem.mpr fun call hcall => ?_
    obtain ⟨hin, hout⟩ := (h.calls.active call).mp hcall
    exact hout (hended call hin)
  refine ⟨?_, hactive⟩
  rw [Turns.active, List.append_eq_nil_iff, List.map_eq_nil_iff, List.map_eq_nil_iff] at hactive
  obtain ⟨hholders, hwaiters⟩ := hactive
  have hheld := h.orderly.held
  rw [hholders] at hheld
  calc c.turns.lock = ⟨c.turns.lock.held, c.turns.lock.waiters⟩ := rfl
    _ = Lock.free := by rw [hheld, hwaiters]; rfl

theorem held_iff (h : Consistent history c) :
    c.turns.lock.held = true ↔ inside history ≠ [] := by
  rw [h.calls.inside, ne_eq, List.map_eq_nil_iff, h.orderly.held]
  simp

theorem isReading_eq_false (h : Consistent history c) (hnone : underway history = []) :
    c.turns.isReading = false := by
  rw [Bool.eq_false_iff, ne_eq, h.readings.isReading_iff, not_not, ← h.readings.underway]
  exact hnone

end Consistent

/-! ## How the next call goes on -/

namespace Service

variable {s : Service}

/-- A call that has taken the lock while no reading is unfinished begins one. -/
theorem proceed_of_idle (hidle : s.turns.isReading = false) (call : Call) :
    (s.proceed call).2 = [.readingBegun call s.turns.readingsBegun] := by
  rw [proceed, if_neg (by rw [hidle]; exact Bool.false_ne_true)]

theorem ask_of_idle (hfree : s.turns.lock.isFree = true) (hidle : s.turns.isReading = false)
    (caller : Caller) :
    (s.ask caller).2 = [.called (s.turns.nextCall caller), .entered (s.turns.nextCall caller),
      .readingBegun (s.turns.nextCall caller) s.turns.readingsBegun] := by
  rw [ask, if_pos hfree]
  let call := s.turns.nextCall caller
  have hproceed := proceed_of_idle (s := { s with turns := s.turns.letIn call }) hidle call
  exact congrArg (fun later => Effect.called call :: .entered call :: later) hproceed

theorem enter_of_idle {w : Waiter} (hwoken : w.woken = true)
    (hidle : s.turns.isReading = false) :
    (s.enter w).2 = [.entered w.call, .readingBegun w.call s.turns.readingsBegun] := by
  rw [enter, if_pos hwoken]
  have hproceed := proceed_of_idle (s := { s with turns := s.turns.hold w.call }) hidle w.call
  exact congrArg (fun later => Effect.entered w.call :: later) hproceed

/-- The first of those who wait for a lock that nobody holds takes it when its turn comes. -/
theorem step_enter_first (ho : s.turns.Orderly) (hfree : s.turns.lock.held = false)
    {w : Waiter} {rest : List Waiter} (hw : s.turns.lock.waiters = w :: rest) :
    s.step (.enter w.call.number) = s.enter w ∧ w.woken = true := by
  have hfirst : s.turns.waiter? w.call.number = some w := by
    rw [Turns.waiter?, hw]
    exact List.find?_cons_of_pos (decide_eq_true rfl)
  refine ⟨?_, ho.sound.first_woken hfree hw⟩
  rw [step, hfirst]

/-- **The discipline of readings**, in four parts.

    One at a time: in the history of a run at most one call is inside, between taking the lock
    and letting it go, and the lock is held just while one is.

    One reading: at most one reading is under way, and a reading begins only when none is, so
    also after the time limit or the cancellation of the call that began the last one.

    One's own: a call publishes only what the reading that it began has yielded before it
    returns, and this is what is published then. A reading is begun by one call, and a call that
    publishes ends in no other way, by its time limit say or by cancellation; so what a reading
    yields after its call has ended is published by nobody.

    No blocking: when every call has ended the lock is free, and then, if no reading is under
    way, the next call takes it and begins a reading, be it a client's or a loop's. When nobody
    is inside, the first of those who wait, if any, can take the lock, and begins a reading if
    none is under way. A call fails because a reading is in progress only while one is under
    way. -/
theorem readings_disciplined (table : String) (timing : Timing) (events : List Event) :
    ((∀ before, before <+: historyAfter table timing events → (inside before).length ≤ 1) ∧
      ((after table timing events).turns.lock.held = true ↔
        inside (historyAfter table timing events) ≠ [])) ∧
    ((∀ before, before <+: historyAfter table timing events → (underway before).length ≤ 1) ∧
      ∀ before call reading,
        before ++ [.readingBegun call reading] <+: historyAfter table timing events →
          underway before = []) ∧
    ((∀ before call,
        before ++ [.returned call .published] <+: historyAfter table timing events →
          ∃ text snapshot, Read before call text ∧ Snapshot.ofText text = .ok snapshot) ∧
      (publishers (historyAfter table timing events) = [] →
        (after table timing events).accounts = Accounts.empty) ∧
      (∀ earlier call, publishers (historyAfter table timing events) = earlier ++ [call] →
        ∃ text snapshot, Read (historyAfter table timing events) call text ∧
          Snapshot.ofText text = .ok snapshot ∧
          (after table timing events).accounts.published.snapshot = snapshot) ∧
      (∀ call other reading, (call, reading) ∈ begun (historyAfter table timing events) →
        (other, reading) ∈ begun (historyAfter table timing events) → call = other) ∧
      ∀ call ∈ publishers (historyAfter table timing events),
        ∀ e ∈ historyAfter table timing events,
          e.ended? = some call → e = .returned call .published) ∧
    (((∀ call ∈ calls (historyAfter table timing events),
          call ∈ ends (historyAfter table timing events)) →
        (after table timing events).turns.lock = Lock.free ∧
        (underway (historyAfter table timing events) = [] →
          (∀ client, ∃ call reading, ((after table timing events).step (.call client)).2 =
            [.called call, .entered call, .readingBegun call reading]) ∧
          ∀ loop ∈ (after table timing events).loops, ∃ call reading,
            ((after table timing events).step (.wake loop)).2 =
              [.called call, .entered call, .readingBegun call reading])) ∧
      (inside (historyAfter table timing events) = [] →
        ∀ w rest, (after table timing events).turns.lock.waiters = w :: rest →
          (∃ later, ((after table timing events).step (.enter w.call.number)).2 =
            .entered w.call :: later) ∧
          (underway (historyAfter table timing events) = [] → ∃ reading,
            ((after table timing events).step (.enter w.call.number)).2 =
              [.entered w.call, .readingBegun w.call reading])) ∧
      ∀ before n, before ++ [.notice n] <+: historyAfter table timing events →
        n.saysStillReading = true → underway before ≠ []) := by
  have h := consistent_after table timing events
  refine ⟨⟨h.inside_le_one, h.held_iff⟩,
    ⟨h.underway_le_one, fun before call reading => h.underway_nil⟩,
    ⟨fun before call => h.rules before _, h.published_eq.1, h.published_eq.2,
      fun call other reading => h.readings.beginner_unique,
      fun call hcall e => h.published_only hcall⟩,
    ?ended, ?handover, fun before n => h.rules before _⟩
  case ended =>
    intro hended
    obtain ⟨hlock, hactive⟩ := h.lock_eq_free hended
    refine ⟨hlock, fun hnone => ?_⟩
    have hidle := h.isReading_eq_false hnone
    have hfree : (after table timing events).turns.lock.isFree = true := by
      rw [show (after table timing events).turns.lock = Lock.free from hlock]
      rfl
    refine ⟨fun client => ⟨_, _, ask_of_idle hfree hidle (.client client)⟩, ?_⟩
    intro loop hloop
    have hcall : (after table timing events).callOf? loop = none := by
      rw [callOf?, show (after table timing events).turns.active = [] from hactive]
      rfl
    rw [step, if_pos ⟨hloop, hcall⟩]
    exact ⟨_, _, ask_of_idle hfree hidle (.loop loop)⟩
  case handover =>
    intro hnobody w rest hw
    have hheld : (after table timing events).turns.lock.held = false := by
      rw [Bool.eq_false_iff]
      exact fun hheld => h.held_iff.mp hheld hnobody
    obtain ⟨hstep, hwoken⟩ := step_enter_first h.orderly hheld hw
    rw [hstep]
    constructor
    · rw [enter, if_pos hwoken]
      exact ⟨_, rfl⟩
    · exact fun hnone => ⟨_, enter_of_idle hwoken (h.isReading_eq_false hnone)⟩

/-- A reading outlasts its call's time limit: the next call finds it in progress, and only after
    it has finished does a call begin another. -/
example (table : String) (timing : Timing) :
    begun (historyAfter table timing
      [.call 0, .expire 0, .call 1, .finish 0 (.ok "late"), .call 2]) =
        [(⟨0, .client 0⟩, 0), (⟨2, .client 2⟩, 1)] := by
  rfl

end Service

end Flowmeter.Collector
