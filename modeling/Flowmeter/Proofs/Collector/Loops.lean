import Flowmeter.Proofs.Collector.Undisturbed

/-!
# Loops and who holds them

A collector keeps the number of one loop only, of the one that was started last, until a stop
returns. A stop ends that loop where it waits or sleeps, and no other. So as long as each start
comes when the status says that none is running and no stop is under way, there is never a second
loop, and a stop that returns leaves none: what is begun after that is begun for clients. A start
that comes earlier leaves a loop behind that nothing holds, no stop ends, and the status does not
tell of.

The argument has three layers, each of which forgets what the one before was made of.

* What an event can do to loops (`Attends`). The ten events of a collector do seven things to its
  loops, or none, and say which call they make and which they end. Every later proof is a case
  analysis over these seven and never opens `step`.
* Who calls (`Manned`). A loop has at most one call, and is alive as long as it has one. This is
  kept by every event in every run, also in those with starts that come too early, so it is proved
  without looking at what is current.
* Who is held (`Supervised`). This needs that starts come apart. At most one loop is alive, and then
  it is the one whose number the collector keeps.

The two invariants are kept apart because the second alone is what a start can break. `Manned` needs
the history of a run and not just the state: that no two calls have one number, which is why a stop
cancels the call of the loop it finds and no other, is known of the calls that have ever been made.
-/

set_option autoImplicit false

namespace Flowmeter.Collector

open History

/-- What a collector knows of its loops. -/
structure Roster where
  loops : List Nat
  current : Option Nat
  stopping : Nat
  loopsBegun : Nat

/-- The call of a caller is cancelled; a loop ends with its call. -/
def Roster.without (r : Roster) : Caller → Roster
  | .client _ => r
  | .loop loop => { r with loops := r.loops.erase loop }

/-- Whether a loop is started. -/
def Service.Event.isStart : Service.Event → Bool
  | .start => true
  | _ => false

namespace Service

def roster (s : Service) : Roster := ⟨s.loops, s.current, s.stopping, s.loopsBegun⟩

variable {s s' : Service} {history effects : List Effect} {event : Event}

theorem loops_eq (h : s'.roster = s.roster) : s'.loops = s.loops :=
  congrArg Roster.loops h

/-! ## What cycles do to loops

What a cycle comes to, a reading that fails included, concerns accounts, counts and turns. It says
nothing of loops. So everything here is told of `ask`, `enter` and `conclude` once, whatever the
reading has yielded, and the event that a cycle ends by does not matter to what follows. -/

theorem roster_endLoop (s : Service) (caller : Caller) :
    (s.endLoop caller).roster = s.roster.without caller := by
  cases caller with
  | client client => rfl
  | loop loop => rfl

theorem roster_digest (s : Service) (outcome : Except Files.Fault String)
    (now milliseconds : Nat) : (s.digest outcome now milliseconds).1.roster = s.roster := by
  rcases s.digest_cases outcome now milliseconds with
    ⟨failure, hstate, -⟩ | ⟨breakdown, hstate, -⟩ | ⟨survey, hstate, -⟩
  · rw [hstate]
    rfl
  · rw [hstate]
  · rw [hstate]
    rfl

theorem calls_notices (l : List Notice) : calls (l.map .notice) = [] := by
  refine List.filterMap_eq_nil_iff.mpr fun e he => ?_
  obtain ⟨notice, -, rfl⟩ := List.mem_map.mp he
  rfl

/-- A call that returns makes no other: a loop asks again only when it wakes. -/
theorem calls_conclude (call : Call) (verdict : Service × List Notice × Result) :
    calls (conclude call verdict).2 = [] := by
  rw [conclude, calls_append, calls_append, calls_notices, calls_notices]
  rfl

/-- A step by which no call is made and no loop begins or ends. -/
def Serves (s : Service) (next : Service × List Effect) : Prop :=
  next.1.roster = s.roster ∧ calls next.2 = []

theorem serves_proceed (s : Service) (call : Call) : s.Serves (s.proceed call) := by
  rw [proceed]
  split
  · exact ⟨rfl, calls_conclude _ _⟩
  · exact ⟨rfl, rfl⟩

/-- The call that is asked for is the only one that is made. -/
theorem ask_makes (s : Service) (caller : Caller) :
    (s.ask caller).1.roster = s.roster ∧
      calls (s.ask caller).2 = [s.turns.nextCall caller] := by
  rw [ask]
  split
  · obtain ⟨hroster, hcalls⟩ := serves_proceed
      { s with turns := s.turns.letIn (s.turns.nextCall caller) } (s.turns.nextCall caller)
    exact ⟨hroster, congrArg (s.turns.nextCall caller :: ·) hcalls⟩
  · exact ⟨rfl, rfl⟩

theorem serves_enter (s : Service) (w : Waiter) : s.Serves (s.enter w) := by
  rw [enter]
  split
  · exact serves_proceed { s with turns := s.turns.hold w.call } w.call
  · exact ⟨rfl, rfl⟩

/-! ## What one event does to loops

`Drops` is the one thing that ends a loop without a stop: its call is cancelled from outside while
it waits. A stop does the same to the loop it finds, or ends it in its sleep. -/

/-- A call that has not ended is cancelled, and its loop ends with it if it has one. -/
structure Drops (s : Service) (call : Call) (next : Service × List Effect) : Prop where
  active : call ∈ s.turns.active
  quiet : calls next.2 = []
  ended : ends next.2 = [call]
  roster : next.1.roster = s.roster.without call.caller

/-- A cancellation finds the call of its number, or there is none. That there may be two of one
    number is not excluded here, since that is a matter of the whole history. -/
theorem breakOff_cases (s : Service) (number : Nat) :
    (s.breakOff number = (s, []) ∧ ∀ call ∈ s.turns.active, call.number ≠ number) ∨
      ∃ call, call.number = number ∧ s.Drops call (s.breakOff number) := by
  rw [breakOff]
  cases hholder : s.turns.holder? number with
  | some holder =>
    have hnumber := List.find?_some hholder
    refine Or.inr ⟨holder.call, of_decide_eq_true hnumber, ?_, rfl, rfl, roster_endLoop _ _⟩
    exact List.mem_append_left _ (List.mem_map_of_mem (List.mem_of_find?_eq_some hholder))
  | none =>
    cases hwaiter : s.turns.waiter? number with
    | some waiter =>
      have hnumber := List.find?_some hwaiter
      refine Or.inr ⟨waiter.call, of_decide_eq_true hnumber, ?_, rfl, rfl, roster_endLoop _ _⟩
      exact List.mem_append_right _ (List.mem_map_of_mem (List.mem_of_find?_eq_some hwaiter))
    | none =>
      refine Or.inl ⟨rfl, ?_⟩
      intro call hcall
      rcases List.mem_append.mp hcall with hin | hin
      · obtain ⟨holder, hh, rfl⟩ := List.mem_map.mp hin
        simpa using List.find?_eq_none.mp hholder holder hh
      · obtain ⟨waiter, hw, rfl⟩ := List.mem_map.mp hin
        simpa using List.find?_eq_none.mp hwaiter waiter hw

/-- All that one event can do to the loops, and which call it makes. -/
inductive Attends (s : Service) : Event → Service × List Effect → Prop where
  | serve {event : Event} {next : Service × List Effect} (unasked : event.client? = none)
      (serves : s.Serves next) : Attends s event next
  | visit {next : Service × List Effect} (client : Nat) (same : next.1.roster = s.roster)
      (made : calls next.2 = [s.turns.nextCall (.client client)]) :
      Attends s (.call client) next
  | round {next : Service × List Effect} {loop : Nat} (alive : loop ∈ s.loops)
      (idle : s.callOf? loop = none) (same : next.1.roster = s.roster)
      (made : calls next.2 = [s.turns.nextCall (.loop loop)]) : Attends s (.wake loop) next
  | drop {next : Service × List Effect} {call : Call} (number : Nat)
      (drops : s.Drops call next) : Attends s (.cancel number) next
  | start : Attends s .start (s.step .start)
  /-- A stop cancels the call of the loop that is held, or ends the loop where it sleeps. -/
  | stop {next : Service × List Effect} {loop : Nat} (held : s.current = some loop)
      (quiet : calls next.2 = [])
      (ended : ∀ call, s.callOf? loop = some call → ends next.2 = [call])
      (roster : next.1.roster =
        ⟨s.loops.erase loop, s.current, s.stopping + 1, s.loopsBegun⟩) :
      Attends s .stop next
  | stopped {next : Service × List Effect} (underway : s.stopping ≠ 0) (quiet : calls next.2 = [])
      (roster : next.1.roster = ⟨s.loops, none, s.stopping - 1, s.loopsBegun⟩) :
      Attends s .stopped next

/-- A loop that is cancelled ends, with its call if it has one. -/
theorem cancelLoop_ends (s : Service) (loop : Nat)
    (hnumbers : ∀ call ∈ s.turns.active, ∀ other ∈ s.turns.active,
      call.number = other.number → call = other) :
    (s.cancelLoop loop).1.roster = s.roster.without (.loop loop) ∧
      calls (s.cancelLoop loop).2 = [] ∧
      ∀ call, s.callOf? loop = some call → ends (s.cancelLoop loop).2 = [call] := by
  rw [cancelLoop]
  cases hcall : s.callOf? loop with
  | none =>
    refine ⟨roster_endLoop _ _, rfl, ?_⟩
    intro call hsome
    cases hsome
  | some call =>
    have hfound : s.turns.active.find? (fun call => call.caller = .loop loop) = some call := hcall
    have hactive : call ∈ s.turns.active := List.mem_of_find?_eq_some hfound
    have hfits := List.find?_some hfound
    have hcaller : call.caller = .loop loop := of_decide_eq_true hfits
    rcases s.breakOff_cases call.number with ⟨-, hnone⟩ | ⟨other, hnumber, hdrops⟩
    · exact absurd rfl (hnone call hactive)
    · have hsame : other = call := hnumbers other hdrops.active call hactive hnumber
      subst hsame
      refine ⟨?_, hdrops.quiet, ?_⟩
      -- the call is found by its caller, so what goes with it is the loop in question
      · rw [← hcaller]
        exact hdrops.roster
      · intro call hsome
        rw [← Option.some.inj hsome]
        exact hdrops.ended

/-- What `Attends` lists is all there is. The calls that have not ended must have numbers of
    their own: a stop looks its call up by the loop and then cancels it by the number. -/
theorem attends_step (s : Service) (event : Event)
    (hnumbers : ∀ call ∈ s.turns.active, ∀ other ∈ s.turns.active,
      call.number = other.number → call = other) :
    Attends s event (s.step event) := by
  cases event with
  | call client => exact .visit client (ask_makes s _).1 (ask_makes s _).2
  | enter number =>
    rw [step]
    split
    · exact .serve rfl (serves_enter s _)
    · exact .serve rfl ⟨rfl, rfl⟩
  | finish reading outcome =>
    rw [step]
    split
    · exact .serve rfl ⟨rfl, rfl⟩
    · exact .serve rfl ⟨rfl, rfl⟩
  | conclude number now milliseconds =>
    rw [step]
    split
    · exact .serve rfl ⟨roster_digest s _ now milliseconds, calls_conclude _ _⟩
    · exact .serve rfl ⟨rfl, rfl⟩
  | expire number =>
    rw [step]
    split
    · exact .serve rfl ⟨rfl, calls_conclude _ _⟩
    · exact .serve rfl ⟨rfl, rfl⟩
  | cancel number =>
    rcases s.breakOff_cases number with ⟨hnothing, -⟩ | ⟨call, -, hdrops⟩
    · rw [step, hnothing]
      exact .serve rfl ⟨rfl, rfl⟩
    · exact .drop number hdrops
  | start => exact .start
  | wake loop =>
    rw [step]
    split
    · next hloop => exact .round hloop.1 hloop.2 (ask_makes s _).1 (ask_makes s _).2
    · exact .serve rfl ⟨rfl, rfl⟩
  | stop =>
    rw [step]
    split
    · exact .serve rfl ⟨rfl, rfl⟩
    · next loop hcurrent =>
      obtain ⟨hroster, hcalls, hends⟩ :=
        cancelLoop_ends { s with stopping := s.stopping + 1 } loop hnumbers
      exact .stop hcurrent hcalls hends hroster
  | stopped =>
    rw [step]
    split
    · exact .serve rfl ⟨rfl, rfl⟩
    · next hunderway => exact .stopped hunderway rfl rfl

/-! ## Calls of loops

The three facts about calls and numbers are carried through the acts of a step, as the other
invariants of turns are (`Trail.keeps`). The two about loops cannot be: between the acts of one step
a loop that is being stopped still has a call that has ended already. They are proved for whole
steps from `Attends`. -/

/-- Calls are numbered in the order in which they are made. -/
def Numbered (history : List Effect) (t : Turns) : Prop :=
  (calls history).map (·.number) = List.range t.callsBegun

theorem numbered_act {c d : Core} (h : Numbered history c.turns) (hact : Act c effects d) :
    Numbered (history ++ effects) d.turns := by
  unfold Numbered at h ⊢
  rw [calls_append, List.map_append, h]
  cases hact with
  | queue caller hbusy => exact List.range_succ.symm
  | letIn caller hfree => exact List.range_succ.symm
  | leave hh hend =>
    rw [hend.ends_eq.1]
    exact List.append_nil _
  | notice => exact List.append_nil _
  | hold => exact List.append_nil _
  | beginReading => exact List.append_nil _
  | finish => exact List.append_nil _
  | abandon => exact List.append_nil _

/-- Only a call that has been made and has not ended takes the lock. -/
def Enters (before : List Effect) : Effect → Prop
  | .entered call => call ∈ calls before ∧ call ∉ ends before
  | _ => True

/-- A waiter is woken only while it waits, and one that comes to a free lock has just called. -/
theorem enters_act {c d : Core} (h : Keeps Enters history) (hc : CallsAgree history c.turns)
    (hact : Act c effects d) : Keeps Enters (history ++ effects) := by
  cases hact with
  | notice => exact h.snoc trivial
  | queue => exact h.snoc trivial
  | letIn caller hfree =>
    have hcalled : Keeps Enters (history ++ [.called (c.turns.nextCall caller)]) :=
      h.snoc trivial
    -- the call is made and entered in one act, in this order
    rw [List.append_cons]
    refine hcalled.snoc ⟨?_, ?_⟩
    · rw [calls_append]
      exact List.mem_append_right _ List.mem_cons_self
    · rw [ends_append]
      intro hended
      -- it has only just got its number, so it is not among those that have ended
      rcases List.mem_append.mp hended with hbefore | hnow
      · exact hc.next_not_mem caller (hc.ended _ hbefore)
      · cases hnow
  | hold hw hwoken =>
    exact h.snoc ((hc.active _).mp (List.mem_append_right _ (List.mem_map_of_mem hw)))
  | beginReading => exact h.snoc trivial
  | finish => exact h.snoc trivial
  | @leave holder _ _ hh hend =>
    have hleft : Keeps Enters (history ++ [.left holder.call]) := h.snoc trivial
    rw [List.append_cons]
    refine hleft.snoc ?_
    cases hend <;> trivial
  | abandon => exact h.snoc trivial

/-- What is known of the calls after a history, and of those of loops in particular: each is the
    only one of its loop, and its loop is alive. -/
structure Manned (history : List Effect) (s : Service) : Prop where
  consistent : Consistent history s.core
  numbered : Numbered history s.turns
  enters : Keeps Enters history
  alive : ∀ call ∈ s.turns.active, ∀ loop, call.caller = .loop loop → loop ∈ s.loops
  single : ∀ call ∈ s.turns.active, ∀ other ∈ s.turns.active, ∀ loop,
    call.caller = .loop loop → other.caller = .loop loop → call = other

namespace Manned

theorem numbers_unique (h : Manned history s) : ∀ call ∈ s.turns.active,
    ∀ other ∈ s.turns.active, call.number = other.number → call = other := by
  have hnodup : ((calls history).map (·.number)).Nodup := by
    -- a collector numbers its calls as it makes them, from nought on
    rw [h.numbered]
    exact List.nodup_range
  intro call hcall other hother hnumber
  exact List.inj_on_of_nodup_map hnodup ((h.consistent.calls.active call).mp hcall).1
    ((h.consistent.calls.active other).mp hother).1 hnumber

theorem attends (h : Manned history s) (event : Event) : Attends s event (s.step event) :=
  attends_step s event h.numbers_unique

/-- A loop that asks for a cycle has no call yet. -/
theorem not_active_of_idle {loop : Nat} (hidle : s.callOf? loop = none) {call : Call}
    (hcall : call ∈ s.turns.active) : call.caller ≠ .loop loop := by
  have hnone : s.turns.active.find? (fun call => call.caller = .loop loop) = none := hidle
  simpa using List.find?_eq_none.mp hnone call hcall

/-- What is looked up for a loop that has a call is a call of that loop; that it is the same call
    needs `single`. -/
theorem exists_callOf? {call : Call} (hcall : call ∈ s.turns.active) {loop : Nat}
    (hcaller : call.caller = .loop loop) : ∃ found ∈ s.turns.active,
      found.caller = .loop loop ∧ s.callOf? loop = some found := by
  cases hfound : s.callOf? loop with
  | none => exact absurd hcaller (not_active_of_idle hfound hcall)
  | some found =>
    have hfind : s.turns.active.find? (fun call => call.caller = .loop loop) = some found := hfound
    have hfits := List.find?_some hfind
    exact ⟨found, List.mem_of_find?_eq_some hfind, of_decide_eq_true hfits, rfl⟩

variable {next : Service × List Effect} {call other : Call} {loop : Nat}

/-- A call of a loop is made by a loop that is alive and has none, and by nobody else then. -/
theorem made_by_loop (hattends : Attends s event next) (hcall : call ∈ calls next.2)
    (hcaller : call.caller = .loop loop) :
    loop ∈ s.loops ∧ s.callOf? loop = none ∧ next.1.loops = s.loops ∧
      calls next.2 = [call] := by
  cases hattends with
  | serve unasked serves =>
    rw [serves.2] at hcall
    cases hcall
  | visit client same made =>
    rw [made, List.mem_singleton] at hcall
    rw [hcall] at hcaller
    cases hcaller
  | round alive idle same made =>
    rw [made, List.mem_singleton] at hcall
    subst hcall
    cases hcaller
    exact ⟨alive, idle, loops_eq same, made⟩
  | drop number drops =>
    rw [drops.quiet] at hcall
    cases hcall
  | start => cases hcall
  | stop held quiet ended roster =>
    rw [quiet] at hcall
    cases hcall
  | stopped underway quiet roster =>
    rw [quiet] at hcall
    cases hcall

/-- The loop of a call that an event does not end is alive after it. -/
theorem alive_of_active (h : Manned history s) (hattends : Attends s event next)
    (hcall : call ∈ s.turns.active) (hopen : call ∉ ends next.2)
    (hcaller : call.caller = .loop loop) : loop ∈ next.1.loops := by
  have halive : loop ∈ s.loops := h.alive call hcall loop hcaller
  -- an event that ends a loop would end this call with it, the only one of its loop
  have hother : ∀ ended ∈ s.turns.active, ends next.2 = [ended] →
      ended.caller ≠ .loop loop := by
    rintro ended hended hends hsame
    rw [hends, h.single call hcall ended hended loop hcaller hsame] at hopen
    exact hopen List.mem_cons_self
  cases hattends with
  | serve unasked serves =>
    rw [loops_eq serves.1]
    exact halive
  | visit client same made =>
    rw [loops_eq same]
    exact halive
  | round alive idle same made =>
    rw [loops_eq same]
    exact halive
  | @drop _ gone number drops =>
    have hloops : next.1.loops = (s.roster.without gone.caller).loops :=
      congrArg Roster.loops drops.roster
    have hdiffers := hother gone drops.active drops.ended
    rw [hloops]
    cases hgone : gone.caller with
    | client client => exact halive
    | loop ended =>
      refine (List.mem_erase_of_ne ?_).mpr halive
      rintro rfl
      exact hdiffers hgone
  | start => exact List.mem_append_left _ halive
  | @stop _ ended held quiet hended roster =>
    have hloops : next.1.loops = s.loops.erase ended := congrArg Roster.loops roster
    rw [hloops]
    refine (List.mem_erase_of_ne ?_).mpr halive
    rintro rfl
    obtain ⟨found, hfound, hits, hfits⟩ := exists_callOf? hcall hcaller
    exact hother found hfound (hended found hfits) hits
  | stopped underway quiet roster =>
    have hloops : next.1.loops = s.loops := congrArg Roster.loops roster
    rw [hloops]
    exact halive

/-- A call of a loop that an event brings is the only one of its loop. -/
theorem eq_of_made (hattends : Attends s event next) (hcall : call ∈ calls next.2)
    (hcaller : call.caller = .loop loop)
    (hother : other ∈ s.turns.active ∨ other ∈ calls next.2)
    (hothers : other.caller = .loop loop) : call = other := by
  obtain ⟨-, hidle, -, honly⟩ := made_by_loop hattends hcall hcaller
  rcases hother with hbefore | hnow
  · exact absurd hothers (not_active_of_idle hidle hbefore)
  · rw [honly, List.mem_singleton] at hnow
    exact hnow.symm

/-- **The step.** A call that is there afterwards is either old and not ended by the event, and
    then its loop has not ended either; or new, and then its loop had no call and is alive. -/
theorem step (h : Manned history s) (event : Event) :
    Manned (history ++ (s.step event).2) (s.step event).1 := by
  have htrail := trail_step s event
  -- what is kept act by act: order, numbers and who enters
  have hkept := htrail.keeps
    (fun hP hact => ⟨hP.1.act hact, numbered_act hP.2.1 hact, enters_act hP.2.2 hP.1.calls hact⟩)
    (P := fun history c => Consistent history c ∧ Numbered history c.turns ∧ Keeps Enters history)
    ⟨h.consistent, h.numbered, h.enters⟩
  obtain ⟨hconsistent, hnumbered, henters⟩ := hkept
  have hattends := h.attends event
  -- a call that is there after the event was there before or is made now, and does not end now
  have hfrom : ∀ call ∈ (s.step event).1.turns.active,
      (call ∈ s.turns.active ∨ call ∈ calls (s.step event).2) ∧
        call ∉ ends (s.step event).2 := by
    intro call hcall
    obtain ⟨hmade, hopen⟩ := (hconsistent.calls.active call).mp hcall
    rw [calls_append, List.mem_append] at hmade
    rw [ends_append, List.mem_append, not_or] at hopen
    -- made before and not ended before is what it means to be there before
    refine ⟨hmade.imp_left fun hbefore => ?_, hopen.2⟩
    exact (h.consistent.calls.active call).mpr ⟨hbefore, hopen.1⟩
  refine ⟨hconsistent, hnumbered, henters, ?alive, ?single⟩
  case alive =>
    intro call hcall loop hcaller
    obtain ⟨hcame, hopen⟩ := hfrom call hcall
    rcases hcame with hbefore | hnow
    · exact h.alive_of_active hattends hbefore hopen hcaller
    · obtain ⟨halive, -, hloops, -⟩ := made_by_loop hattends hnow hcaller
      rw [hloops]
      exact halive
  case single =>
    intro call hcall other hother loop hcaller hothers
    obtain ⟨hcame, -⟩ := hfrom call hcall
    obtain ⟨hothercame, -⟩ := hfrom other hother
    rcases hcame with hbefore | hnow
    · rcases hothercame with hotherbefore | hothernow
      · exact h.single call hbefore other hotherbefore loop hcaller hothers
      · exact (eq_of_made hattends hothernow hothers (Or.inl hbefore) hcaller).symm
    · exact eq_of_made hattends hnow hcaller hothercame hothers

theorem run (h : Manned history s) (events : List Event) :
    Manned (history ++ (s.run events).2) (s.run events).1 := by
  induction events generalizing history s with
  | nil =>
    show Manned (history ++ []) s
    rw [List.append_nil]
    exact h
  | cons event rest ih =>
    rw [run_cons, ← List.append_assoc]
    exact ih (h.step event)

end Manned

theorem manned_new (table : String) (timing : Timing) : Manned [] (new table timing) where
  consistent := consistent_new table timing
  numbered := rfl
  enters := keeps_nil
  alive := by
    intro call hcall
    cases hcall
  single := by
    intro call hcall
    cases hcall

theorem manned_after (table : String) (timing : Timing) (events : List Event) :
    Manned (historyAfter table timing events) (after table timing events) :=
  (manned_new table timing).run events

/-! ## Starts that come apart

The program starts its loop once, and stops it once, at the end. What it relies on is weaker: that a
start comes only where the status says that nothing runs, and no stop is still waiting for the loop
it has cancelled. The second part is not told by the status. A start between a stop and its return
would be forgotten by that return, which sets the current loop to none. -/

/-- Each start comes when nothing is running and no stop is under way. -/
def StartsApart (s : Service) : List Event → Prop
  | [] => True
  | event :: rest =>
      (event.isStart = true → s.status.running = false ∧ s.stopping = 0) ∧
        StartsApart (s.step event).1 rest

/-- No loop is alive, or one is, which is held and is not being stopped. -/
def Supervised (s : Service) : Prop :=
  s.loops = [] ∨ ∃ loop, s.loops = [loop] ∧ s.current = some loop ∧ s.stopping = 0

theorem Supervised.congr (h : Supervised s) (hroster : s'.roster = s.roster) :
    Supervised s' := by
  have hcurrent : s'.current = s.current := congrArg Roster.current hroster
  have hstopping : s'.stopping = s.stopping := congrArg Roster.stopping hroster
  unfold Supervised
  rw [loops_eq hroster, hcurrent, hstopping]
  exact h

/-- A loop that is alive is current and is not being stopped. -/
theorem Supervised.loops_nil (h : Supervised s) (hnone : s.current = none ∨ s.stopping ≠ 0) :
    s.loops = [] := by
  rcases h with hloops | ⟨loop, -, hcurrent, hstopping⟩
  · exact hloops
  · rcases hnone with hnone | hunderway
    · rw [hnone] at hcurrent
      cases hcurrent
    · exact absurd hstopping hunderway

/-- The status asks whether the current loop is alive. Without supervision a loop may be alive
    that is not current, and the status then denies it. -/
theorem Supervised.running_iff (h : Supervised s) :
    s.status.running = true ↔ s.loops ≠ [] := by
  show s.current.any (fun loop => s.loops.contains loop) = true ↔ _
  rcases h with hloops | ⟨loop, hloops, hcurrent, -⟩
  · rw [hloops]
    cases s.current <;> simp
  · rw [hloops, hcurrent]
    simp

/-- Where nothing is running no loop is alive. -/
theorem Supervised.loops_nil_of_not_running (h : Supervised s)
    (hrunning : s.status.running = false) : s.loops = [] := by
  by_contra hloops
  rw [h.running_iff.mpr hloops] at hrunning
  cases hrunning

theorem Supervised.start (h : Supervised s) (hrunning : s.status.running = false) :
    (s.step .start).1.loops = [s.loopsBegun] ∧ (s.step .start).1.status.running = true := by
  have hloops : (s.step .start).1.loops = [s.loopsBegun] := by
    show s.loops ++ [s.loopsBegun] = [s.loopsBegun]
    rw [h.loops_nil_of_not_running hrunning]
    rfl
  refine ⟨hloops, ?_⟩
  show (s.step .start).1.loops.contains s.loopsBegun = true
  rw [hloops]
  exact List.contains_iff_mem.mpr List.mem_cons_self

/-- **The step.** A start that comes apart from others finds no loop, and a stop that finds one
    ends it. -/
theorem Supervised.attends (h : Supervised s) {next : Service × List Effect}
    (hattends : Attends s event next)
    (hstart : event.isStart = true → s.status.running = false ∧ s.stopping = 0) :
    Supervised next.1 := by
  cases hattends with
  | serve unasked serves => exact h.congr serves.1
  | visit client same made => exact h.congr same
  | round alive idle same made => exact h.congr same
  | @drop _ gone number drops =>
    have hroster := drops.roster
    cases hgone : gone.caller with
    | client client =>
      rw [hgone] at hroster
      exact h.congr hroster
    | loop ended =>
      rw [hgone] at hroster
      have hloops : next.1.loops = s.loops.erase ended := congrArg Roster.loops hroster
      have hcurrent : next.1.current = s.current := congrArg Roster.current hroster
      have hstopping : next.1.stopping = s.stopping := congrArg Roster.stopping hroster
      rcases h with hnone | ⟨loop, hone, hheld, hidle⟩
      · rw [hnone] at hloops
        exact Or.inl hloops
      -- whichever loop has been cancelled: either it was the only one, or that one is left
      · rw [hone, List.erase_cons] at hloops
        split at hloops
        · exact Or.inl hloops
        · exact Or.inr ⟨loop, hloops, hcurrent.trans hheld, hstopping.trans hidle⟩
  | start =>
    obtain ⟨hrunning, hidle⟩ := hstart rfl
    exact Or.inr ⟨s.loopsBegun, (h.start hrunning).1, rfl, hidle⟩
  | @stop _ loop held quiet ended roster =>
    have hloops : next.1.loops = s.loops.erase loop := congrArg Roster.loops roster
    rcases h with hnone | ⟨only, hone, hheld, -⟩
    · rw [hnone] at hloops
      exact Or.inl hloops
    -- the loop that is current is the only one, so nothing is left
    · rw [held, Option.some.injEq] at hheld
      rw [hone, hheld, List.erase_cons_head] at hloops
      exact Or.inl hloops
  | stopped underway quiet roster =>
    have hloops : next.1.loops = s.loops := congrArg Roster.loops roster
    exact Or.inl (hloops.trans (h.loops_nil (Or.inr underway)))

theorem supervised_run (hmanned : Manned history s) (h : Supervised s) {events : List Event}
    (hapart : s.StartsApart events) : Supervised (s.run events).1 := by
  -- `Manned` is carried along: it tells that a stop ends the loop it finds and no other call
  induction events generalizing history s with
  | nil => exact h
  | cons event rest ih =>
    obtain ⟨hstart, hrest⟩ := hapart
    exact ih (hmanned.step event) (h.attends (hmanned.attends event) hstart) hrest

theorem supervised_after {table : String} {timing : Timing} {events : List Event}
    (hapart : (new table timing).StartsApart events) :
    Supervised (after table timing events) :=
  supervised_run (manned_new table timing) (Or.inl rfl) hapart

/-! ## After a stop

A stop returns when the loop that it has cancelled has ended, or at once where there is nothing to
stop. By supervision no loop is left then. From there on what keeps loops away is not supervision,
which a later cancellation could not break anyway, but that there is nobody who could begin one
except a start. -/

/-- With an event a stop returns: one that was under way, or one that has no loop to stop. -/
def StopReturns (s : Service) (event : Event) : Prop :=
  event = .stopped ∧ s.stopping ≠ 0 ∨ event = .stop ∧ s.current = none

/-- A stop that was under way has ended the only loop; one that finds no current loop finds none
    at all. -/
theorem Supervised.loops_nil_of_returns (h : Supervised s) (hreturns : s.StopReturns event) :
    (s.step event).1.loops = [] := by
  rcases hreturns with ⟨rfl, hunderway⟩ | ⟨rfl, hnone⟩
  · rw [step, if_neg hunderway]
    exact h.loops_nil (Or.inr hunderway)
  · rw [step, hnone]
    exact h.loops_nil (Or.inl hnone)

/-- Without loops, calls are made by clients only, and no loop comes but by a start. -/
theorem attends_of_loops_nil (hnone : s.loops = []) {next : Service × List Effect}
    (hattends : Attends s event next) (hstart : event.isStart = false) :
    next.1.loops = [] ∧
      (calls next.2).map (·.caller) = event.client?.toList.map Caller.client := by
  cases hattends with
  | serve unasked serves =>
    rw [serves.2, unasked]
    exact ⟨(loops_eq serves.1).trans hnone, rfl⟩
  | visit client same made =>
    rw [made]
    exact ⟨(loops_eq same).trans hnone, rfl⟩
  | round alive idle same made =>
    rw [hnone] at alive
    cases alive
  | @drop _ gone number drops =>
    have hloops : next.1.loops = (s.roster.without gone.caller).loops :=
      congrArg Roster.loops drops.roster
    rw [drops.quiet, hloops]
    refine ⟨?_, rfl⟩
    cases gone.caller with
    | client client => exact hnone
    | loop loop =>
      show s.loops.erase loop = []
      rw [hnone]
      rfl
  | start => cases hstart
  | stop held quiet ended roster =>
    have hloops : next.1.loops = s.loops.erase _ := congrArg Roster.loops roster
    rw [hnone] at hloops
    rw [quiet]
    exact ⟨hloops, rfl⟩
  | stopped underway quiet roster =>
    have hloops : next.1.loops = s.loops := congrArg Roster.loops roster
    rw [quiet]
    exact ⟨hloops.trans hnone, rfl⟩

/-- What one event keeps, a run keeps; the calls of the run are those of its clients, in order. -/
theorem run_of_loops_nil (hmanned : Manned history s) (hnone : s.loops = [])
    {later : List Event} (hstarts : ∀ e ∈ later, e.isStart = false) :
    (s.run later).1.loops = [] ∧ (calls (s.run later).2).map (·.caller) =
      (later.filterMap Event.client?).map Caller.client := by
  induction later generalizing history s with
  | nil => exact ⟨hnone, rfl⟩
  | cons event rest ih =>
    obtain ⟨hstart, hrest⟩ := List.forall_mem_cons.mp hstarts
    obtain ⟨hloops, hcalls⟩ := attends_of_loops_nil hnone (hmanned.attends event) hstart
    obtain ⟨hfinal, hlater⟩ := ih (hmanned.step event) hloops hrest
    have hclients : (event :: rest).filterMap Event.client? =
        event.client?.toList ++ rest.filterMap Event.client? := by
      cases hclient : event.client? with
      | none => exact List.filterMap_cons_none hclient
      | some client => exact List.filterMap_cons_some hclient
    rw [run_cons, calls_append, List.map_append, hcalls, hlater, hclients, List.map_append]
    exact ⟨hfinal, rfl⟩

/-- Whoever takes the lock in a run was there before it or has called in it. -/
theorem Manned.mem_of_entered (h : Manned history s) {events : List Event} {call : Call}
    (hentered : .entered call ∈ (s.run events).2) :
    call ∈ s.turns.active ∨ call ∈ calls (s.run events).2 := by
  obtain ⟨before, after, hsplit⟩ := List.append_of_mem hentered
  have hrule := (h.run events).enters (history ++ before) (.entered call) (by
    rw [hsplit]
    refine ⟨after, ?_⟩
    simp)
  -- the call was made and had not ended when it took the lock, before the run or in it
  obtain ⟨hmade, hopen⟩ := hrule
  rw [calls_append, List.mem_append] at hmade
  rw [ends_append, List.mem_append, not_or] at hopen
  rcases hmade with hbefore | hnow
  · exact Or.inl ((h.consistent.calls.active call).mpr ⟨hbefore, hopen.1⟩)
  · right
    rw [hsplit, calls_append]
    exact List.mem_append_left _ hnow

/-- **A stop that returns leaves no loop.** In a run in which each start comes when nothing is
    running and no stop is under way, at most one loop is alive at a time, and the status says
    whether one is; where none is, a start begins one. When a stop returns none is, and none will
    be before the next start, whatever else happens: the status says so, all calls made are those
    of clients, and every call that takes the lock is a client's, made by then or in the
    meantime. -/
theorem stop_leaves_no_loop (table : String) (timing : Timing) (events : List Event)
    (hapart : (new table timing).StartsApart events) :
    let s := after table timing events
    s.loops.length ≤ 1 ∧ (s.status.running = true ↔ s.loops ≠ []) ∧
    (s.status.running = false → (s.step .start).1.loops = [s.loopsBegun] ∧
      (s.step .start).1.status.running = true) ∧
    ∀ event, s.StopReturns event → ∀ later, (∀ e ∈ later, e.isStart = false) →
      let stopped := (s.step event).1
      let t := (stopped.run later).1
      let effects := (stopped.run later).2
      t.loops = [] ∧ t.status.running = false ∧
        (calls effects).map (·.caller) = (later.filterMap Event.client?).map Caller.client ∧
        ∀ call, .entered call ∈ effects → ∃ client, call.caller = .client client ∧
          (call ∈ stopped.turns.active ∨ client ∈ later.filterMap Event.client?) := by
  intro s
  have h : Supervised s := supervised_after hapart
  refine ⟨?_, h.running_iff, h.start, ?_⟩
  · rcases h with hloops | ⟨loop, hloops, -⟩
    · rw [hloops]
      exact Nat.zero_le 1
    · rw [hloops]
      exact Nat.le_refl 1
  intro event hreturns later hstarts stopped t effects
  have hmanned : Manned _ stopped := (manned_after table timing events).step event
  have hnone : stopped.loops = [] := h.loops_nil_of_returns hreturns
  obtain ⟨hloops, hcalls⟩ := run_of_loops_nil hmanned hnone hstarts
  refine ⟨hloops, ?_, hcalls, ?_⟩
  · show t.current.any (fun loop => t.loops.contains loop) = false
    rw [show t.loops = [] from hloops]
    cases t.current <;> rfl
  -- a call of a loop that was waiting at the return would have kept its loop alive
  · intro call hentered
    rcases hmanned.mem_of_entered hentered with hbefore | hnow
    · cases hcaller : call.caller with
      | client client => exact ⟨client, rfl, Or.inl hbefore⟩
      | loop loop =>
        have halive := hmanned.alive call hbefore loop hcaller
        rw [hnone] at halive
        cases halive
    · have hcaller := List.mem_map_of_mem (f := (·.caller)) hnow
      rw [hcalls] at hcaller
      obtain ⟨client, hclient, heq⟩ := List.mem_map.mp hcaller
      exact ⟨client, heq.symm, Or.inr hclient⟩

/-- A stop that comes in the middle of a cycle: a client that has been waiting gets the lock, and
    the loop does not come back. -/
theorem stop_leaves_no_loop_midCycle :
    let s := after "proc/net/nf_conntrack" ⟨10, 5⟩ [.start, .wake 0, .call 7, .stop]
    let later := [.enter 1, .wake 0, .call 8]
    let t := ((s.step .stopped).1.run later).1
    t.loops = [] ∧ t.status.running = false ∧
      (calls ((s.step .stopped).1.run later).2).map (·.caller) = [.client 8] := by
  have h := stop_leaves_no_loop "proc/net/nf_conntrack" ⟨10, 5⟩
    [.start, .wake 0, .call 7, .stop]
    ⟨fun _ => ⟨rfl, rfl⟩, nofun, nofun, nofun, trivial⟩
  obtain ⟨-, -, -, hreturns⟩ := h
  have hlater := hreturns .stopped (Or.inl ⟨rfl, Nat.one_ne_zero⟩) [.enter 1, .wake 0, .call 8]
    (by simp [Event.isStart])
  exact ⟨hlater.1, hlater.2.1, hlater.2.2.1⟩

/-- A loop that a second start has left behind goes on after the stop: it asks for a cycle and
    begins a reading, and the status says that nothing runs. -/
theorem second_start_outlives_stop :
    let s := after "proc/net/nf_conntrack" ⟨10, 5⟩ [.start, .start]
    let stopped := (s.run [.stop, .stopped]).1
    s.loops = [0, 1] ∧ (s.step .stop).1.StopReturns .stopped ∧
      stopped.loops = [0] ∧ stopped.status.running = false ∧
      (stopped.step (.wake 0)).2 =
        [.called ⟨0, .loop 0⟩, .entered ⟨0, .loop 0⟩, .readingBegun ⟨0, .loop 0⟩ 0] :=
  ⟨rfl, Or.inl ⟨rfl, Nat.one_ne_zero⟩, rfl, rfl, rfl⟩

end Service

end Flowmeter.Collector
