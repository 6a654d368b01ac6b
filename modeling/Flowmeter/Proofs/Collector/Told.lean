import Flowmeter.Proofs.Collector.Invariant

/-!
# A call gets what its reading has yielded

The lock is held by a call until it returns or is cancelled, and all that time it is told what
becomes of its reading. So when a reading has finished and the call that began it is still
inside, that call has the outcome and can go on with it.

The state alone cannot say this. It knows of a holder which reading it waits for and what it has
been told; which call began a reading, and what a reading has yielded, are matters of the history.
`Told` is the part that can be said of the state, and so it is kept act by act like the other
invariants of turns. `Consistent` ties the two together.

What is gained is that a call which is inside after its reading has finished is never stuck: the
event that ends it can happen. What a cycle publishes is stated of the outcome that the history
names, and `Consistent.holder_of_yielded` finds that outcome in the state.
-/

set_option autoImplicit false

namespace Flowmeter.Collector

open History

variable {history : List Effect} {c d : Core} {effects : List Effect}

/-- What the reading that a call began has yielded. -/
def History.Yielded (history : List Effect) (call : Call)
    (outcome : Except Files.Fault String) : Prop :=
  ∃ reading, (call, reading) ∈ begun history ∧ (reading, outcome) ∈ finished history

/-! ## Whoever has no outcome waits for one

Three acts touch it. A call that takes the lock has no reading yet; one that begins a reading waits
for a new one; and a reading that finishes is told to everyone who waits for it in the same act as
it is taken off those unfinished. -/

/-- A holder without outcome still waits for its reading. -/
def Turns.Told (t : Turns) : Prop :=
  ∀ h ∈ t.holders, ∀ reading, h.reading = some reading → h.outcome = none →
    reading ∈ t.unfinished

namespace Turns.Told

theorem hold {t : Turns} (h : t.Told) (call : Call) : (t.hold call).Told := by
  intro holder hh reading hr hnone
  rcases List.mem_append.mp hh with hh | hh
  · exact h holder hh reading hr hnone
  · rw [List.mem_singleton.mp hh] at hr
    cases hr

theorem beginReading {t : Turns} (h : t.Told) (call : Call) : (t.beginReading call).Told := by
  intro holder hh reading hr hnone
  obtain ⟨before, hb, rfl⟩ := List.mem_map.mp hh
  refine List.mem_append.mpr ?_
  -- the reading is either the new one or the one the holder had before
  split at hr
  case isTrue =>
    cases hr
    exact Or.inr (List.mem_singleton.mpr rfl)
  case isFalse hne =>
    rw [if_neg hne] at hnone
    exact Or.inl (h before hb reading hr hnone)

theorem finish {t : Turns} (h : t.Told) (reading : Nat) (outcome : Except Files.Fault String) :
    (t.finish reading outcome).Told := by
  intro holder hh other hr hnone
  obtain ⟨before, hb, rfl⟩ := List.mem_map.mp hh
  split at hnone
  case isTrue => cases hnone
  case isFalse hne =>
    rw [if_neg hne] at hr
    refine List.mem_filter.mpr ⟨h before hb other hr hnone, decide_eq_true ?_⟩
    rintro rfl
    -- whoever waited for the reading has just been told
    exact hne hr

theorem act (h : c.turns.Told) (hact : Act c effects d) : d.turns.Told := by
  cases hact with
  | letIn caller hfree => exact h.hold _
  | hold hw hwoken => exact h.hold _
  | beginReading hh hnone hidle => exact h.beginReading _
  | finish outcome hr => exact h.finish _ outcome
  | leave hh hend => exact fun holder hin => h holder (List.mem_filter.mp hin).1
  | _ => exact h

theorem trail (h : c.turns.Told) (ht : Trail c effects d) : d.turns.Told := by
  induction ht with
  | done c => exact h
  | act first _ ih => exact ih (h.act first)

end Turns.Told

theorem Service.told_after (table : String) (timing : Timing) (events : List Event) :
    (after table timing events).turns.Told := by
  have hnew : (new table timing).turns.Told := by simp [Turns.Told, new, Turns.new]
  exact hnew.trail (trail_run (new table timing) events)

/-! ## One call, one reading, one outcome -/

theorem Consistent.yielded_unique (h : Consistent history c) {call : Call}
    {outcome outcome' : Except Files.Fault String} (hy : Yielded history call outcome)
    (hy' : Yielded history call outcome') : outcome = outcome' := by
  obtain ⟨reading, hbegun, hfinished⟩ := hy
  obtain ⟨reading', hbegun', hfinished'⟩ := hy'
  have hsame := h.know.reading_unique hbegun hbegun'
  subst hsame
  exact h.readings.outcome_unique hfinished hfinished'

/-! ## Whoever is inside holds the lock -/

theorem Consistent.holder_of_inside (h : Consistent history c) {call : Call}
    (hin : call ∈ inside history) : ∃ holder ∈ c.turns.holders, holder.call = call ∧
      c.turns.holder? call.number = some holder := by
  rw [h.calls.inside] at hin
  obtain ⟨holder, hh, rfl⟩ := List.mem_map.mp hin
  refine ⟨holder, hh, rfl, ?_⟩
  rw [Turns.holder?, h.orderly.holders_of_mem hh]
  exact List.find?_cons_of_pos (decide_eq_true rfl)

/-- A call that is inside has what its reading has yielded. -/
theorem Consistent.holder_of_yielded (h : Consistent history c) (ht : c.turns.Told) {call : Call}
    {outcome : Except Files.Fault String} (hin : call ∈ inside history)
    (hy : Yielded history call outcome) :
    ∃ reading, c.turns.holder? call.number = some ⟨call, reading, some outcome⟩ := by
  obtain ⟨holder, hh, rfl, hfound⟩ := h.holder_of_inside hin
  obtain ⟨reading, hbegun, hfinished⟩ := hy
  -- the reading it waits for is the one that it began, and that one has finished
  have hreading : holder.reading = some reading := by
    cases hr : holder.reading with
    | none => exact absurd hbegun ((h.know.fresh holder hh hr).2 reading)
    | some other =>
      have hother := h.know.reading holder hh other hr
      rw [h.know.reading_unique hother hbegun]
  have hsettled : reading ∉ c.turns.unfinished :=
    (h.readings.settled reading (List.mem_map_of_mem hfinished)).2
  obtain ⟨known, hknown⟩ : ∃ known, holder.outcome = some known := by
    rw [← Option.ne_none_iff_exists']
    exact fun hnone => hsettled (ht holder hh reading hreading hnone)
  have hyielded := h.know.outcome holder hh known hknown
  rw [h.yielded_unique hyielded ⟨reading, hbegun, hfinished⟩] at hknown
  exact ⟨holder.reading, hfound.trans (by rw [← hknown])⟩

end Flowmeter.Collector
