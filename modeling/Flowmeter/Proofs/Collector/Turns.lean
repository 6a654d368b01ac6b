import Flowmeter.Proofs.Collector.Acts
import Flowmeter.Proofs.Collector.Lock

/-!
# Turns and the history behind them

Three things are kept by every act. The lock is held just while a call is between taking it and
letting it go, and there is never a second one. The calls that have been made and have not ended
are those that have the lock or wait for it, each of them once. And the readings that have begun
and not finished are at most the one that was begun last, which is what a call looks at before
it begins another.

The history is what an onlooker sees, and the turns are what the collector knows. Neither is defined
by the other, and the two structures of this module say that they agree. `Turns.Orderly` needs no
history: it is about the lock alone, and the other two rest on it.

Agreement is kept act by act. Four lemmas say what it takes, one for effects that tell of no call,
one for calls that move, one for a call that begins and one for a call that ends; the eight acts are
put under these.
-/

set_option autoImplicit false

namespace Flowmeter.Collector

open History

variable {history more : List Effect} {t t' : Turns} {c d : Core} {effects : List Effect}

/-- However a call ends, the effect that says so tells of no entering and no leaving; that has
    its own effect before. -/
theorem Ending.silent {a a' : Accounts} {h : Holder} {e : Effect} (hend : Ending a h e a') :
    e.entered? = none ∧ e.left? = none := by
  cases hend <;> exact ⟨rfl, rfl⟩

/-- A call that lets the lock go has ended. -/
theorem Ending.ends_eq {a a' : Accounts} {h : Holder} {e : Effect} (hend : Ending a h e a') :
    calls [.left h.call, e] = [] ∧ ends [.left h.call, e] = [h.call] := by
  cases hend <;> exact ⟨rfl, rfl⟩

/-! ## What an act leaves as it is

A call that learns something of its reading is still the same call. -/

@[simp] theorem Turns.map_call_beginReading (t : Turns) (call : Call) :
    (t.beginReading call).holders.map (·.call) = t.holders.map (·.call) := by
  rw [Turns.beginReading, List.map_map]
  refine List.map_congr_left fun holder _ => ?_
  simp only [Function.comp_apply]
  split <;> rfl

@[simp] theorem Turns.map_call_finish (t : Turns) (reading : Nat)
    (outcome : Except Files.Fault String) :
    (t.finish reading outcome).holders.map (·.call) = t.holders.map (·.call) := by
  rw [Turns.finish, List.map_map]
  refine List.map_congr_left fun holder _ => ?_
  simp only [Function.comp_apply]
  split <;> rfl

/-! ## One call at a time

`held` is a flag of the lock and could be out of step with who holds it; that it is not, and that
there is one holder at most, are kept together. -/

/-- The lock is sound, and held just if somebody holds it, who is alone. -/
structure Turns.Orderly (t : Turns) : Prop where
  sound : t.lock.Sound
  held : t.lock.held = !t.holders.isEmpty
  alone : t.holders.length ≤ 1

namespace Turns.Orderly

theorem new : Turns.new.Orderly where
  sound := Lock.sound_free
  held := rfl
  alone := Nat.zero_le 1

/-- A lock that is not held is held by nobody. -/
theorem holders_nil (h : t.Orderly) (hfree : t.lock.held = false) : t.holders = [] := by
  rw [h.held] at hfree
  simpa using hfree

theorem holders_of_isFree (h : t.Orderly) (hfree : t.lock.isFree = true) :
    t.holders = [] := by
  refine h.holders_nil ?_
  simp only [Lock.isFree, Bool.and_eq_true, Bool.not_eq_true'] at hfree
  exact hfree.1

/-- Somebody has been woken only because the lock was let go. -/
theorem holders_of_woken (h : t.Orderly) {w : Waiter} (hw : w ∈ t.lock.waiters)
    (hwoken : w.woken = true) : t.holders = [] :=
  h.holders_nil (h.sound.not_held_of_woken hw hwoken)

/-- Whoever has the lock is all who have it. -/
theorem holders_of_mem (h : t.Orderly) {holder : Holder} (hh : holder ∈ t.holders) :
    t.holders = [holder] := by
  obtain ⟨other, hother⟩ := List.length_eq_one_iff.mp
    (Nat.le_antisymm h.alone (List.length_pos_of_mem hh))
  rw [hother] at hh ⊢
  rw [List.mem_singleton.mp hh]

/-- A call that takes a lock that nobody holds is alone with it. -/
theorem hold (hnone : t.holders = []) {call : Call} (hsound : (t.lock.take call).Sound) :
    (t.hold call).Orderly where
  sound := hsound
  held := by simp [Turns.hold, Lock.take]
  alone := by simp [Turns.hold, hnone]

/-- Only who holds the lock matters, not what they wait for. -/
theorem congr (h : t.Orderly) (hlock : t'.lock = t.lock)
    (hcalls : t'.holders.map (·.call) = t.holders.map (·.call)) : t'.Orderly := by
  have hlength : t'.holders.length = t.holders.length := by
    simpa using congrArg List.length hcalls
  have hempty : t'.holders.isEmpty = t.holders.isEmpty := by
    rw [Bool.eq_iff_iff, List.isEmpty_iff, List.isEmpty_iff, ← List.length_eq_zero_iff, hlength,
      List.length_eq_zero_iff]
  exact ⟨hlock ▸ h.sound, by rw [hlock, hempty, h.held], hlength ▸ h.alone⟩

theorem act (h : c.turns.Orderly) (hact : Act c effects d) : d.turns.Orderly := by
  cases hact with
  | notice => exact h
  | queue caller hbusy => exact ⟨h.sound.join hbusy _, h.held, h.alone⟩
  | letIn caller hfree =>
    obtain ⟨hs, hh, ha⟩ := hold (h.holders_of_isFree hfree)
      (Lock.Sound.take_of_isFree hfree (c.turns.nextCall caller))
    exact ⟨hs, hh, ha⟩
  | hold hw hwoken =>
    exact hold (h.holders_of_woken hw hwoken) (h.sound.take hw hwoken)
  | beginReading hh hnone hidle => exact h.congr rfl (Turns.map_call_beginReading _ _)
  | finish outcome hr => exact h.congr rfl (Turns.map_call_finish _ _ outcome)
  | leave hh hend =>
    -- the holder was alone, so nobody is left
    refine ⟨h.sound.release, ?_, ?_⟩
    · simp [Turns.release, Lock.release, h.holders_of_mem hh]
    · simp [Turns.release, h.holders_of_mem hh]
  | abandon hw => exact ⟨h.sound.abandon _, h.held, h.alone⟩

end Turns.Orderly

/-! ## The calls that have not ended

The order of the active calls is not kept: a call that is woken moves from the line to the lock. So
agreement speaks of membership, and `apart` that none is there twice; a permutation is what the
lemmas ask for. -/

/-- The turns know of the calls what the history says of them. -/
structure CallsAgree (history : List Effect) (t : Turns) : Prop where
  inside : inside history = t.holders.map (·.call)
  active : ∀ call, call ∈ t.active ↔ call ∈ calls history ∧ call ∉ ends history
  apart : t.active.Nodup
  numbered : ∀ call ∈ calls history, call.number < t.callsBegun
  ended : ∀ call ∈ ends history, call ∈ calls history
  endedOnce : (ends history).Nodup

namespace CallsAgree

theorem new : CallsAgree [] Turns.new where
  inside := rfl
  active := by simp [Turns.active, Turns.new, Lock.free, calls]
  apart := List.nodup_nil
  numbered := by simp [calls]
  ended := by simp [ends]
  endedOnce := List.nodup_nil

/-- Effects that begin and end no call, if the same calls stay active. -/
theorem moved (h : CallsAgree history t) (hcalls : calls more = []) (hends : ends more = [])
    (hinside : History.inside (history ++ more) = t'.holders.map (·.call))
    (hactive : t'.active.Perm t.active) (hcount : t'.callsBegun = t.callsBegun) :
    CallsAgree (history ++ more) t' := by
  refine ⟨hinside, ?_, hactive.nodup_iff.mpr h.apart, ?_, ?_, ?_⟩
  · intro call
    rw [hactive.mem_iff, calls_append, ends_append, hcalls, hends, List.append_nil,
      List.append_nil]
    exact h.active call
  · rw [calls_append, hcalls, List.append_nil, hcount]
    exact h.numbered
  · rw [calls_append, ends_append, hcalls, hends, List.append_nil, List.append_nil]
    exact h.ended
  · rw [ends_append, hends, List.append_nil]
    exact h.endedOnce

/-- Effects that tell of no call at all. -/
theorem quiet (h : CallsAgree history t)
    (hmore : ∀ e ∈ more, e.called? = none ∧ e.entered? = none ∧ e.left? = none ∧
      e.ended? = none)
    (hholders : t'.holders.map (·.call) = t.holders.map (·.call)) (hlock : t'.lock = t.lock)
    (hcount : t'.callsBegun = t.callsBegun) : CallsAgree (history ++ more) t' := by
  have hinside : History.inside (history ++ more) = History.inside history :=
    stillOpen_append_of_silent fun e he => ⟨(hmore e he).2.1, (hmore e he).2.2.1⟩
  have hactive : t'.active = t.active := by rw [Turns.active, hholders, hlock, Turns.active]
  refine h.moved ?_ ?_ (hinside.trans (h.inside.trans hholders.symm)) (.of_eq hactive) hcount
  · exact List.filterMap_eq_nil_iff.mpr fun e he => (hmore e he).1
  · exact List.filterMap_eq_nil_iff.mpr fun e he => (hmore e he).2.2.2

/-- The number of the next call is beyond those of all calls that were made. -/
theorem next_not_mem (h : CallsAgree history t) (caller : Caller) :
    t.nextCall caller ∉ calls history :=
  fun hmem => Nat.lt_irrefl _ (h.numbered _ hmem)

/-- A new call that becomes active, first or last. -/
theorem called (h : CallsAgree history t) (caller : Caller)
    (hmore : calls more = [t.nextCall caller]) (hends : ends more = [])
    (hinside : History.inside (history ++ more) = t'.holders.map (·.call))
    (hactive : t'.active.Perm (t.nextCall caller :: t.active))
    (hcount : t'.callsBegun = t.callsBegun + 1) : CallsAgree (history ++ more) t' := by
  have hfresh := h.next_not_mem caller
  refine ⟨hinside, ?_, ?_, ?_, ?_, ?_⟩
  · -- a call that has not been made has not ended either
    intro call
    rw [hactive.mem_iff, List.mem_cons, h.active, calls_append, ends_append, hmore, hends,
      List.append_nil, List.mem_append, List.mem_singleton]
    constructor
    · rintro (rfl | ⟨hin, hout⟩)
      · exact ⟨Or.inr rfl, fun hend => hfresh (h.ended _ hend)⟩
      · exact ⟨Or.inl hin, hout⟩
    · rintro ⟨hin | rfl, hout⟩
      · exact Or.inr ⟨hin, hout⟩
      · exact Or.inl rfl
  · rw [hactive.nodup_iff, List.nodup_cons]
    exact ⟨fun hmem => hfresh ((h.active _).mp hmem).1, h.apart⟩
  · intro call hcall
    rw [calls_append, hmore, List.mem_append, List.mem_singleton] at hcall
    rw [hcount]
    rcases hcall with hcall | rfl
    · exact Nat.lt_succ_of_lt (h.numbered call hcall)
    · exact Nat.lt_succ_self _
  · intro call hcall
    rw [ends_append, hends, List.append_nil] at hcall
    rw [calls_append]
    exact List.mem_append_left _ (h.ended call hcall)
  · rw [ends_append, hends, List.append_nil]
    exact h.endedOnce

/-- An active call that ends. -/
theorem ends (h : CallsAgree history t) {call : Call} (hcall : call ∈ t.active)
    (hmore : calls more = []) (hends : History.ends more = [call])
    (hinside : History.inside (history ++ more) = t'.holders.map (·.call))
    (hactive : t'.active = t.active.filter (· ≠ call))
    (hcount : t'.callsBegun = t.callsBegun) : CallsAgree (history ++ more) t' := by
  have hin := (h.active call).mp hcall
  refine ⟨hinside, ?_, hactive ▸ h.apart.filter _, ?_, ?_, ?_⟩
  · intro other
    rw [hactive, List.mem_filter, h.active, calls_append, ends_append, hmore, hends,
      List.append_nil, List.mem_append, List.mem_singleton, decide_eq_true_eq, not_or, and_assoc]
  · rw [calls_append, hmore, List.append_nil, hcount]
    exact h.numbered
  · intro other hother
    rw [ends_append, hends, List.mem_append, List.mem_singleton] at hother
    rw [calls_append, hmore, List.append_nil]
    rcases hother with hother | rfl
    · exact h.ended other hother
    · exact hin.1
  · rw [ends_append, hends, List.nodup_append]
    refine ⟨h.endedOnce, by simp, ?_⟩
    rintro other hother _ hlast rfl
    rw [List.mem_singleton.mp hlast] at hother
    exact hin.2 hother

/-- A call that has the lock does not wait for it. -/
theorem not_waiting (h : CallsAgree history t) {holder : Holder} (hh : holder ∈ t.holders)
    {w : Waiter} (hw : w ∈ t.lock.waiters) : w.call ≠ holder.call := by
  intro heq
  have hdisjoint := (List.nodup_append.mp h.apart).2.2
  exact hdisjoint _ (List.mem_map_of_mem hh) _ (List.mem_map_of_mem hw) heq.symm

/-- Who lets the lock go is struck out of the active calls, and the waiters stay. -/
theorem active_release (h : CallsAgree history t) {holder : Holder}
    (hh : holder ∈ t.holders) :
    (t.release holder.call).active = t.active.filter (· ≠ holder.call) := by
  have hrest : (t.lock.waiters.map (·.call)).filter (· ≠ holder.call) =
      t.lock.waiters.map (·.call) := by
    rw [List.filter_eq_self]
    intro call hcall
    obtain ⟨w, hw, rfl⟩ := List.mem_map.mp hcall
    exact decide_eq_true (h.not_waiting hh hw)
  rw [Turns.active, Turns.active, List.filter_append, hrest, Turns.release,
    Lock.map_call_release, List.filter_map]
  rfl

/-- Who gives up waiting is struck out, and the holder stays. -/
theorem active_abandon (h : CallsAgree history t) {w : Waiter} (hw : w ∈ t.lock.waiters) :
    (t.abandon w.call).active = t.active.filter (· ≠ w.call) := by
  have hrest : (t.holders.map (·.call)).filter (· ≠ w.call) = t.holders.map (·.call) := by
    rw [List.filter_eq_self]
    intro call hcall
    obtain ⟨holder, hh, rfl⟩ := List.mem_map.mp hcall
    exact decide_eq_true (h.not_waiting hh hw).symm
  rw [Turns.active, Turns.active, List.filter_append, hrest, Turns.abandon,
    Lock.map_call_abandon]

/-- A call that goes from waiting for the lock to having it stays active. -/
theorem active_hold (h : CallsAgree history t) (hnone : t.holders = []) {w : Waiter}
    (hw : w ∈ t.lock.waiters) : (t.hold w.call).active.Perm t.active := by
  have hnodup := (List.nodup_append.mp h.apart).2.1
  have herase : (t.lock.waiters.map (·.call)).filter (· ≠ w.call) =
      (t.lock.waiters.map (·.call)).erase w.call := by
    rw [hnodup.erase_eq_filter]
    refine List.filter_congr fun call _ => ?_
    rw [Bool.eq_iff_iff, decide_eq_true_eq, bne_iff_ne]
  rw [Turns.active, Turns.active, Turns.hold, Lock.map_call_take, herase, hnone]
  show (w.call :: (t.lock.waiters.map (·.call)).erase w.call).Perm
    (t.lock.waiters.map (·.call))
  exact (List.perm_cons_erase (List.mem_map_of_mem hw)).symm

theorem act (h : CallsAgree history c.turns) (ho : c.turns.Orderly) (hact : Act c effects d) :
    CallsAgree (history ++ effects) d.turns := by
  cases hact with
  | notice => exact h.quiet (by simp [Effect.called?, Effect.entered?, Effect.left?,
      Effect.ended?]) rfl rfl rfl
  | queue caller hbusy =>
    refine h.called caller rfl rfl ?_ ?_ rfl
    · exact (stillOpen_append_of_silent (by simp [Effect.entered?, Effect.left?])).trans
        h.inside
    · rw [Turns.active, Turns.queue, Lock.map_call_join, ← List.append_assoc]
      exact List.perm_append_singleton _ _
  | letIn caller hfree =>
    -- the lock is free, so before this call nobody is active at all
    have hnone := ho.holders_of_isFree hfree
    have hnobody : c.turns.lock.waiters = [] := by
      simp only [Lock.isFree, Bool.and_eq_true, List.isEmpty_iff] at hfree
      exact hfree.2
    refine h.called caller rfl rfl ?_ ?_ rfl
    · rw [History.inside, stillOpen_append, ← History.inside, h.inside, hnone]
      simp [opened, Effect.entered?, Effect.left?, Turns.letIn, Turns.hold, hnone]
    · simp [Turns.active, Turns.letIn, Turns.hold, Lock.take, Lock.others, hnone, hnobody]
  | @hold w hw hwoken =>
    have hnone := ho.holders_of_woken hw hwoken
    refine h.moved rfl rfl ?_ (h.active_hold hnone hw) rfl
    rw [History.inside, stillOpen_append, ← History.inside, h.inside, hnone]
    simp [opened, Effect.entered?, Turns.hold, hnone]
  | beginReading hh hnone hidle =>
    exact h.quiet (by simp [Effect.called?, Effect.entered?, Effect.left?, Effect.ended?])
      (Turns.map_call_beginReading _ _) rfl rfl
  | finish outcome hr =>
    exact h.quiet (by simp [Effect.called?, Effect.entered?, Effect.left?, Effect.ended?])
      (Turns.map_call_finish _ _ outcome) rfl rfl
  | @leave holder e _ hh hend =>
    obtain ⟨hentered, hleft⟩ := hend.silent
    obtain ⟨hcalls, hends⟩ := hend.ends_eq
    have hcall : holder.call ∈ c.turns.active :=
      List.mem_append_left _ (List.mem_map_of_mem hh)
    refine h.ends hcall hcalls hends ?_ (h.active_release hh) rfl
    -- whoever has the lock is alone with it, so nobody is left inside
    rw [History.inside, stillOpen_append, ← History.inside, h.inside, List.foldl_cons,
      List.foldl_cons, List.foldl_nil, opened_of_silent hentered hleft, opened,
      Turns.release, List.filter_map]
    simp [Effect.entered?, Effect.left?, ho.holders_of_mem hh]
  | @abandon w hw =>
    have hcall : w.call ∈ c.turns.active :=
      List.mem_append_right _ (List.mem_map_of_mem hw)
    refine h.ends hcall rfl rfl ?_ (h.active_abandon hw) rfl
    exact (stillOpen_append_of_silent (by simp [Effect.entered?, Effect.left?])).trans h.inside

end CallsAgree

end Flowmeter.Collector
