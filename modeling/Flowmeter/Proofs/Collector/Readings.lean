import Flowmeter.Proofs.Collector.Turns
import Mathlib.Data.List.Nodup
import Mathlib.Data.List.Range

/-!
# Readings and the calls that began them

A reading outlives the call that began it when that call gives up. What keeps its late yield
from being taken for another's is kept by every act: a call begins at most one reading, a
reading is begun by one call and finishes once, and what a call holds as the outcome is what its
own reading has yielded.

Two invariants are carried, one about readings and one about calls. `ReadingsAgree` knows nothing of
who has begun a reading: it has their numbers, which of them are unfinished, and that the last begun
is the only one that can be. `CallsKnow` has who has begun which, and rests on the first for
nothing. They are kept apart because a reading goes on without its call: whatever is said of calls
ends when a call ends, and the readings are what is left.

Most acts tell of no reading, and for these each invariant has one lemma, `quiet`, with what it
needs of the turns before and after. Only two acts are left: beginning a reading and finishing one.
-/

set_option autoImplicit false

namespace Flowmeter.Collector

open History

variable {history more : List Effect} {t t' : Turns} {c d : Core} {effects : List Effect}

/-- However a call ends, it leaves the readings to themselves. -/
theorem Ending.no_reading {a a' : Accounts} {h : Holder} {e : Effect}
    (hend : Ending a h e a') :
    ∀ d ∈ [.left h.call, e], d.begun? = none ∧ d.finished? = none := by
  cases hend <;> simp [Effect.begun?, Effect.finished?]

/-! ## Readings

That one reading at most is unfinished is not said as such. It follows from `last`: whatever is
unfinished is the last. This is the form in which the guard asks, so the guard can be put in words
of what is under way. -/

/-- The turns know of the readings what the history says of them, and that only the reading
    begun last may be unfinished. -/
structure ReadingsAgree (history : List Effect) (t : Turns) : Prop where
  underway : underway history = t.unfinished
  numbers : (begun history).map Prod.snd = List.range t.readingsBegun
  last : ∀ reading ∈ t.unfinished, t.lastReading = some reading
  bounded : ∀ reading ∈ t.unfinished, reading < t.readingsBegun
  settled : ∀ reading ∈ (finished history).map Prod.fst,
    reading < t.readingsBegun ∧ reading ∉ t.unfinished
  finishedOnce : ((finished history).map Prod.fst).Nodup

namespace ReadingsAgree

/-- Before anything has happened nothing has been read. -/
theorem new : ReadingsAgree [] Turns.new where
  underway := rfl
  numbers := rfl
  last := by simp [Turns.new]
  bounded := by simp [Turns.new]
  settled := by simp [finished]
  finishedOnce := List.nodup_nil

/-- A call finds a reading in progress just if one is unfinished. -/
theorem isReading_iff (h : ReadingsAgree history t) :
    t.isReading = true ↔ t.unfinished ≠ [] := by
  rw [Turns.isReading, Option.any_eq_true]
  constructor
  · rintro ⟨reading, -, hin⟩
    exact List.ne_nil_of_mem (List.contains_iff_mem.mp hin)
  · intro hne
    obtain ⟨reading, hin⟩ := List.exists_mem_of_ne_nil _ hne
    exact ⟨reading, h.last reading hin, List.contains_iff_mem.mpr hin⟩

/-- The guard asks for the last reading only, and yet it tells of all. -/
theorem unfinished_nil (h : ReadingsAgree history t) (hidle : t.isReading = false) :
    t.unfinished = [] := by
  by_contra hne
  rw [h.isReading_iff.mpr hne] at hidle
  cases hidle

/-- Effects that tell of no reading leave the agreement as it is. -/
theorem quiet (h : ReadingsAgree history t)
    (hmore : ∀ e ∈ more, e.begun? = none ∧ e.finished? = none)
    (hunfinished : t'.unfinished = t.unfinished) (hlast : t'.lastReading = t.lastReading)
    (hcount : t'.readingsBegun = t.readingsBegun) : ReadingsAgree (history ++ more) t' := by
  have hbegun : begun more = [] :=
    List.filterMap_eq_nil_iff.mpr fun e he => (hmore e he).1
  have hfinished : finished more = [] :=
    List.filterMap_eq_nil_iff.mpr fun e he => (hmore e he).2
  refine ⟨?_, ?_, ?_, ?_, ?_, ?_⟩
  · rw [hunfinished, ← h.underway]
    refine stillOpen_append_of_silent fun e he => ?_
    rw [(hmore e he).1, (hmore e he).2]
    exact ⟨rfl, rfl⟩
  · rw [begun_append, hbegun, List.append_nil, hcount]
    exact h.numbers
  · rw [hunfinished, hlast]
    exact h.last
  · rw [hunfinished, hcount]
    exact h.bounded
  · rw [finished_append, hfinished, List.append_nil, hcount, hunfinished]
    exact h.settled
  · rw [finished_append, hfinished, List.append_nil]
    exact h.finishedOnce

/-- A reading more, with the next number. The guard is needed: an unfinished one would no longer
    be the last. -/
theorem beginReading (h : ReadingsAgree history t) (hidle : t.isReading = false)
    (call : Call) : ReadingsAgree (history ++ [.readingBegun call t.readingsBegun])
      (t.beginReading call) := by
  -- none is unfinished, so the new reading is the only one
  have hnone := h.unfinished_nil hidle
  refine ⟨?_, ?_, ?_, ?_, ?_, ?_⟩
  · rw [History.underway, stillOpen_append, ← History.underway, h.underway]
    rfl
  · rw [begun_append, List.map_append, h.numbers]
    exact List.range_succ.symm
  · intro reading hr
    simp only [Turns.beginReading, hnone, List.nil_append, List.mem_singleton] at hr ⊢
    rw [hr]
  · intro reading hr
    simp only [Turns.beginReading, hnone, List.nil_append, List.mem_singleton] at hr ⊢
    omega
  · intro reading hr
    rw [finished_append, show finished [.readingBegun call t.readingsBegun] = []
      from rfl, List.append_nil] at hr
    have hlt := (h.settled reading hr).1
    simp only [Turns.beginReading, hnone, List.nil_append, List.mem_singleton]
    omega
  · rw [finished_append, show finished [.readingBegun call t.readingsBegun] = []
      from rfl, List.append_nil]
    exact h.finishedOnce

/-- A reading ends once: it is struck out where it ends, and it was there to be struck out. -/
theorem finish (h : ReadingsAgree history t) {reading : Nat} (hr : reading ∈ t.unfinished)
    (outcome : Except Files.Fault String) :
    ReadingsAgree (history ++ [.readingFinished reading outcome])
      (t.finish reading outcome) := by
  have hfinished : (finished (history ++ [.readingFinished reading outcome])).map
      Prod.fst = (finished history).map Prod.fst ++ [reading] := by
    rw [finished_append, List.map_append]
    rfl
  refine ⟨?_, ?_, ?_, ?_, ?_, ?_⟩
  · rw [History.underway, stillOpen_append, ← History.underway, h.underway]
    refine List.filter_congr fun other _ => ?_
    simp [Effect.finished?, eq_comm]
  · rw [begun_append, show begun [.readingFinished reading outcome] = [] from rfl,
      List.append_nil]
    exact h.numbers
  · exact fun other hother => h.last other (List.mem_filter.mp hother).1
  · exact fun other hother => h.bounded other (List.mem_filter.mp hother).1
  · intro other hother
    rw [hfinished, List.mem_append, List.mem_singleton] at hother
    simp only [Turns.finish, List.mem_filter, decide_eq_true_eq, not_and, not_not]
    rcases hother with hother | rfl
    · exact ⟨(h.settled other hother).1, fun hin => absurd hin (h.settled other hother).2⟩
    · exact ⟨h.bounded other hr, fun _ => rfl⟩
  · rw [hfinished, List.nodup_append]
    refine ⟨h.finishedOnce, by simp, ?_⟩
    -- what has finished before is unfinished no longer, so this is another
    rintro other hother _ hlast rfl
    rw [List.mem_singleton.mp hlast] at hother
    exact (h.settled reading hother).2 hr

theorem act (h : ReadingsAgree history c.turns) (hact : Act c effects d) :
    ReadingsAgree (history ++ effects) d.turns := by
  cases hact with
  | beginReading hh hnone hidle => exact h.beginReading hidle _
  | finish outcome hr => exact h.finish hr outcome
  | leave hh hend => exact h.quiet hend.no_reading rfl rfl rfl
  | _ => exact h.quiet (by simp [Effect.begun?, Effect.finished?]) rfl rfl rfl

/-- Each reading is begun by one call. -/
theorem beginner_unique (h : ReadingsAgree history t) {call other : Call} {reading : Nat}
    (hcall : (call, reading) ∈ begun history)
    (hother : (other, reading) ∈ begun history) : call = other := by
  have hnodup : ((begun history).map Prod.snd).Nodup := by
    rw [h.numbers]
    exact List.nodup_range
  exact congrArg Prod.fst (List.inj_on_of_nodup_map hnodup hcall hother rfl)

/-- Each reading yields one outcome. -/
theorem outcome_unique (h : ReadingsAgree history t) {reading : Nat}
    {outcome outcome' : Except Files.Fault String}
    (ho : (reading, outcome) ∈ finished history)
    (ho' : (reading, outcome') ∈ finished history) : outcome = outcome' :=
  congrArg Prod.snd (List.inj_on_of_nodup_map h.finishedOnce ho ho' rfl)

end ReadingsAgree

/-! ## Calls and their readings

A call that has the lock is `fresh` until it begins its reading. Two fields beside the one that
matters, `outcome`, are there for the induction: `waiting` keeps a call from having begun anything
before it has the lock, and with `fresh` no call begins two. -/

/-- Which call has begun which reading, and what those that have the lock know of theirs. -/
structure CallsKnow (history : List Effect) (t : Turns) : Prop where
  beginner : ∀ call reading, (call, reading) ∈ begun history → call ∈ calls history
  begunOnce : ((begun history).map Prod.fst).Nodup
  waiting : ∀ call ∈ t.lock.waiters.map (·.call), ∀ reading, (call, reading) ∉ begun history
  fresh : ∀ h ∈ t.holders, h.reading = none →
    h.outcome = none ∧ ∀ reading, (h.call, reading) ∉ begun history
  reading : ∀ h ∈ t.holders, ∀ reading, h.reading = some reading →
    (h.call, reading) ∈ begun history
  outcome : ∀ h ∈ t.holders, ∀ outcome, h.outcome = some outcome →
    ∃ reading, (h.call, reading) ∈ begun history ∧ (reading, outcome) ∈ finished history

namespace CallsKnow

theorem new : CallsKnow [] Turns.new where
  beginner := by simp [begun]
  begunOnce := List.nodup_nil
  waiting := by simp [begun]
  fresh := by simp [Turns.new]
  reading := by simp [Turns.new]
  outcome := by simp [Turns.new]

/-- Effects that tell of no reading, if no call becomes a waiter or a holder that has begun a
    reading. -/
theorem quiet (h : CallsKnow history t)
    (hmore : ∀ e ∈ more, e.begun? = none ∧ e.finished? = none)
    (hwaiters : ∀ call ∈ t'.lock.waiters.map (·.call),
      call ∈ t.lock.waiters.map (·.call) ∨ ∀ reading, (call, reading) ∉ begun history)
    (hholders : ∀ holder ∈ t'.holders, holder ∈ t.holders ∨
      ∃ call, holder = ⟨call, none, none⟩ ∧ ∀ reading, (call, reading) ∉ begun history) :
    CallsKnow (history ++ more) t' := by
  have hbegun : begun (history ++ more) = begun history := by
    have hnil : begun more = [] := List.filterMap_eq_nil_iff.mpr fun e he => (hmore e he).1
    rw [begun_append, hnil, List.append_nil]
  have hfinished : finished (history ++ more) = finished history := by
    have hnil : finished more = [] := List.filterMap_eq_nil_iff.mpr fun e he => (hmore e he).2
    rw [finished_append, hnil, List.append_nil]
  refine ⟨?_, hbegun ▸ h.begunOnce, ?_, ?_, ?_, ?_⟩
  · intro call reading hin
    rw [hbegun] at hin
    rw [calls_append]
    exact List.mem_append_left _ (h.beginner call reading hin)
  · intro call hcall
    rw [hbegun]
    -- whoever waits now has waited before or is new
    exact (hwaiters call hcall).elim (h.waiting call) id
  · intro holder hh hnone
    rw [hbegun]
    rcases hholders holder hh with hh | ⟨call, rfl, hfresh⟩
    · exact h.fresh holder hh hnone
    · exact ⟨rfl, hfresh⟩
  · intro holder hh reading hr
    rw [hbegun]
    rcases hholders holder hh with hh | ⟨call, rfl, -⟩
    · exact h.reading holder hh reading hr
    · cases hr
  · intro holder hh outcome ho
    rw [hbegun, hfinished]
    rcases hholders holder hh with hh | ⟨call, rfl, -⟩
    · exact h.outcome holder hh outcome ho
    · cases ho

/-- A call that has begun no reading takes the lock. -/
theorem hold (h : CallsKnow history t)
    (hmore : ∀ e ∈ more, e.begun? = none ∧ e.finished? = none) {call : Call}
    (hfresh : ∀ reading, (call, reading) ∉ begun history) (hlock : t'.lock = t.lock.take call)
    (hholders : t'.holders = t.holders ++ [⟨call, none, none⟩]) :
    CallsKnow (history ++ more) t' := by
  refine h.quiet hmore ?_ ?_
  · intro other hother
    rw [hlock, Lock.map_call_take] at hother
    exact Or.inl (List.mem_filter.mp hother).1
  · intro holder hh
    rw [hholders] at hh
    rcases List.mem_append.mp hh with hh | hh
    · exact Or.inl hh
    · exact Or.inr ⟨call, List.mem_singleton.mp hh, hfresh⟩

/-- The one act by which a call comes to have begun a reading. It has the lock and is fresh, so
    it has begun none before. -/
theorem beginReading (h : CallsKnow history t) (hc : CallsAgree history t) (ho : t.Orderly)
    {holder : Holder} (hh : holder ∈ t.holders) (hnone : holder.reading = none) :
    CallsKnow (history ++ [.readingBegun holder.call t.readingsBegun])
      (t.beginReading holder.call) := by
  -- the call is alone with the lock, so the holders after it are just this one, told its reading
  have halone := ho.holders_of_mem hh
  obtain ⟨hno, hfresh⟩ := h.fresh holder hh hnone
  have hbegun : begun (history ++ [.readingBegun holder.call t.readingsBegun]) =
      begun history ++ [(holder.call, t.readingsBegun)] := by
    rw [begun_append]
    rfl
  have hnew : ∀ other ∈ (t.beginReading holder.call).holders,
      other = { holder with reading := some t.readingsBegun } := by
    intro other hother
    simpa [Turns.beginReading, halone] using hother
  refine ⟨?_, ?_, ?_, ?_, ?_, ?_⟩
  · intro call reading hin
    rw [hbegun, List.mem_append, List.mem_singleton] at hin
    rw [calls_append]
    refine List.mem_append_left _ ?_
    rcases hin with hin | heq
    · exact h.beginner call reading hin
    · cases heq
      exact ((hc.active _).mp (List.mem_append_left _ (List.mem_map_of_mem hh))).1
  · rw [hbegun, List.map_append, List.nodup_append]
    refine ⟨h.begunOnce, by simp, ?_⟩
    rintro call hcall _ hlast rfl
    obtain ⟨⟨_, reading⟩, hin, rfl⟩ := List.mem_map.mp hcall
    cases List.mem_singleton.mp hlast
    exact hfresh reading hin
  · intro call hcall reading hin
    rw [hbegun, List.mem_append, List.mem_singleton] at hin
    rcases hin with hin | heq
    · exact h.waiting call hcall reading hin
    · -- the call that begins the reading has the lock, so it does not wait for it
      cases heq
      obtain ⟨w, hw, heq⟩ := List.mem_map.mp hcall
      exact hc.not_waiting hh hw heq
  · intro other hother hnothing
    rw [hnew other hother] at hnothing
    cases hnothing
  · intro other hother reading hr
    rw [hnew other hother] at hr ⊢
    cases hr
    rw [hbegun]
    exact List.mem_append_right _ (List.mem_singleton.mpr rfl)
  · intro other hother outcome hsome
    rw [hnew other hother] at hsome
    simp only [hno] at hsome
    cases hsome

/-- The yield goes to whoever waits for this reading and to nobody else. If the call has gone, it
    goes to nobody. -/
theorem finish (h : CallsKnow history t) (reading : Nat)
    (outcome : Except Files.Fault String) :
    CallsKnow (history ++ [.readingFinished reading outcome])
      (t.finish reading outcome) := by
  have hbegun : begun (history ++ [.readingFinished reading outcome]) = begun history := by
    rw [begun_append]
    exact List.append_nil _
  have hfinished : finished (history ++ [.readingFinished reading outcome]) =
      finished history ++ [(reading, outcome)] := by
    rw [finished_append]
    rfl
  -- a holder learns the outcome of its own reading and is otherwise the one it was
  have hold : ∀ holder ∈ (t.finish reading outcome).holders, ∃ before ∈ t.holders,
      holder.call = before.call ∧ holder.reading = before.reading ∧
        (holder.outcome = before.outcome ∨
          before.reading = some reading ∧ holder.outcome = some outcome) := by
    intro holder hh
    obtain ⟨before, hb, rfl⟩ := List.mem_map.mp hh
    refine ⟨before, hb, ?_⟩
    split
    case isTrue hr => exact ⟨rfl, rfl, Or.inr ⟨hr, rfl⟩⟩
    case isFalse => exact ⟨rfl, rfl, Or.inl rfl⟩
  refine ⟨?_, hbegun ▸ h.begunOnce, hbegun ▸ h.waiting, ?_, ?_, ?_⟩
  · intro call reading' hin
    rw [hbegun] at hin
    rw [calls_append]
    exact List.mem_append_left _ (h.beginner call reading' hin)
  · intro holder hh hnone
    obtain ⟨before, hb, hcall, hread, hout⟩ := hold holder hh
    rw [hread] at hnone
    obtain ⟨hno, hfresh⟩ := h.fresh before hb hnone
    rw [hbegun, hcall]
    refine ⟨?_, hfresh⟩
    rcases hout with hout | ⟨hr, -⟩
    · rw [hout, hno]
    · rw [hnone] at hr
      cases hr
  · intro holder hh reading' hr
    obtain ⟨before, hb, hcall, hread, -⟩ := hold holder hh
    rw [hread] at hr
    rw [hbegun, hcall]
    exact h.reading before hb reading' hr
  · intro holder hh outcome' hsome
    obtain ⟨before, hb, hcall, -, hout⟩ := hold holder hh
    rw [hbegun, hfinished, hcall]
    rcases hout with hout | ⟨hr, hout⟩
    · rw [hout] at hsome
      obtain ⟨reading', hin, hfin⟩ := h.outcome before hb outcome' hsome
      exact ⟨reading', hin, List.mem_append_left _ hfin⟩
    · rw [hout] at hsome
      cases hsome
      exact ⟨reading, h.reading before hb reading hr,
        List.mem_append_right _ (List.mem_singleton.mpr rfl)⟩

/-- A call has begun at most one reading. -/
theorem reading_unique (h : CallsKnow history t) {call : Call} {reading other : Nat}
    (hr : (call, reading) ∈ begun history) (ho : (call, other) ∈ begun history) :
    reading = other :=
  congrArg Prod.snd (List.inj_on_of_nodup_map h.begunOnce hr ho rfl)

/-- A call that has not been made has begun no reading. -/
theorem next_not_begun (h : CallsKnow history t) (hc : CallsAgree history t)
    (caller : Caller) (reading : Nat) : (t.nextCall caller, reading) ∉ begun history :=
  fun hin => hc.next_not_mem caller (h.beginner _ _ hin)

theorem act (h : CallsKnow history c.turns) (hc : CallsAgree history c.turns)
    (ho : c.turns.Orderly) (hact : Act c effects d) :
    CallsKnow (history ++ effects) d.turns := by
  cases hact with
  | notice =>
    exact h.quiet (by simp [Effect.begun?, Effect.finished?]) (fun _ => Or.inl)
      (fun _ => Or.inl)
  | queue caller hbusy =>
    refine h.quiet (by simp [Effect.begun?, Effect.finished?]) ?_ (fun _ => Or.inl)
    intro call hcall
    rw [Turns.queue, Lock.map_call_join, List.mem_append, List.mem_singleton] at hcall
    rcases hcall with hcall | rfl
    · exact Or.inl hcall
    · exact Or.inr (h.next_not_begun hc caller)
  | letIn caller hfree =>
    -- a call let in at once is a new one; a call let in later has waited
    exact h.hold (by simp [Effect.begun?, Effect.finished?]) (h.next_not_begun hc caller) rfl rfl
  | hold hw hwoken =>
    exact h.hold (by simp [Effect.begun?, Effect.finished?])
      (h.waiting _ (List.mem_map_of_mem hw)) rfl rfl
  | beginReading hh hnone hidle => exact h.beginReading hc ho hh hnone
  | finish outcome hr => exact h.finish _ outcome
  | leave hh hend =>
    refine h.quiet hend.no_reading ?_ (fun holder hh => Or.inl (List.mem_filter.mp hh).1)
    intro call hcall
    rw [Turns.release, Lock.map_call_release] at hcall
    exact Or.inl hcall
  | abandon hw =>
    refine h.quiet (by simp [Effect.begun?, Effect.finished?]) ?_ (fun _ => Or.inl)
    intro call hcall
    rw [Turns.abandon, Lock.map_call_abandon] at hcall
    exact Or.inl (List.mem_filter.mp hcall).1

end CallsKnow

end Flowmeter.Collector
