import Flowmeter.Collector.Lock

/-!
# The lock wakes one at a time

Nothing stops a woken call from taking the lock, so at most one may have been woken, and none
while the lock is held. And nothing else wakes a call, so one must have been woken whenever the
lock is free and somebody waits. Both are one property of the lock, and every operation keeps
it.

To be free can mean two things here: that nobody holds the lock, and that a call that comes now is
let in (`isFree`). For the second nobody may wait either, since whoever has been woken goes before a
newcomer. `Sound` is about the first, and a call that is let in relies on the second.
-/

set_option autoImplicit false

namespace Flowmeter.Collector

namespace Lock

/-- Of those who wait, the first has been woken just if the lock is not held, and no other has
    been. -/
structure Sound (lock : Lock) : Prop where
  first : ∀ w ∈ lock.waiters.head?, w.woken = !lock.held
  rest : ∀ w ∈ lock.waiters.tail, w.woken = false

/-! ## Who waits

Waking changes who is awake and not who waits. -/

theorem map_call_wakeFirst (l : List Waiter) :
    (wakeFirst l).map (·.call) = l.map (·.call) := by
  cases l <;> rfl

@[simp] theorem map_call_join (lock : Lock) (call : Call) :
    (lock.join call).waiters.map (·.call) = lock.waiters.map (·.call) ++ [call] := by
  rw [join, List.map_append]
  rfl

@[simp] theorem map_call_release (lock : Lock) :
    lock.release.waiters.map (·.call) = lock.waiters.map (·.call) :=
  map_call_wakeFirst lock.waiters

theorem map_call_others (lock : Lock) (call : Call) :
    (lock.others call).map (·.call) = (lock.waiters.map (·.call)).filter (· ≠ call) := by
  rw [others, List.filter_map]
  rfl

@[simp] theorem map_call_take (lock : Lock) (call : Call) :
    (lock.take call).waiters.map (·.call) = (lock.waiters.map (·.call)).filter (· ≠ call) :=
  map_call_others lock call

@[simp] theorem map_call_abandon (lock : Lock) (call : Call) :
    (lock.abandon call).waiters.map (·.call) =
      (lock.waiters.map (·.call)).filter (· ≠ call) := by
  rw [← map_call_others, abandon]
  cases lock.held with
  | true => rfl
  | false => exact map_call_wakeFirst (lock.others call)

/-! ## Soundness

It looks at the first in the line and at the others. Only taking out the first can bring another to
the front, and then that one is woken or the lock is held. -/

theorem sound_free : free.Sound where
  first := by simp [free]
  rest := by simp [free]

variable {lock : Lock}

/-- A lock that is held is sound if nobody has been woken. -/
theorem sound_held {l : List Waiter} (h : ∀ w ∈ l, w.woken = false) : Sound ⟨true, l⟩ where
  first := fun w hw => h w (List.mem_of_mem_head? hw)
  rest := fun w hw => h w (List.mem_of_mem_tail hw)

/-- While the lock is held everybody sleeps. -/
theorem Sound.asleep (h : lock.Sound) (hheld : lock.held = true) :
    ∀ w ∈ lock.waiters, w.woken = false := by
  intro w hw
  obtain ⟨held, waiters⟩ := lock
  cases waiters with
  | nil => cases hw
  | cons first rest =>
    rcases List.mem_cons.mp hw with rfl | hw
    · rw [h.first w rfl, hheld]
      rfl
    · exact h.rest w hw

/-- After the first has been woken, a lock that is not held is sound if nobody else had been. -/
theorem sound_wakeFirst {l : List Waiter} (h : ∀ w ∈ l.tail, w.woken = false) :
    Sound ⟨false, wakeFirst l⟩ := by
  cases l with
  | nil => exact sound_free
  | cons first rest =>
    refine ⟨?_, h⟩
    intro w hw
    cases hw
    rfl

/-- Who has been woken finds the lock let go. -/
theorem Sound.not_held_of_woken (h : lock.Sound) {w : Waiter} (hw : w ∈ lock.waiters)
    (hwoken : w.woken = true) : lock.held = false := by
  rw [Bool.eq_false_iff]
  intro hheld
  rw [h.asleep hheld w hw] at hwoken
  cases hwoken

/-- No wake-up is lost: if the lock is free, the first of those who wait may take it. -/
theorem Sound.first_woken (h : lock.Sound) (hfree : lock.held = false) {w : Waiter}
    {rest : List Waiter} (hw : lock.waiters = w :: rest) : w.woken = true := by
  rw [h.first w (by rw [hw]; rfl), hfree]
  rfl

/-- A newcomer sleeps behind the others. The line is not empty when the lock is not held, or the
    call would have been let in. -/
theorem Sound.join (h : lock.Sound) (hbusy : lock.isFree = false) (call : Call) :
    (lock.join call).Sound := by
  obtain ⟨held, waiters⟩ := lock
  cases waiters with
  | nil =>
    cases held with
    | true => exact sound_held (by simp)
    | false => cases hbusy
  | cons first rest =>
    refine ⟨h.first, ?_⟩
    intro w hw
    rcases List.mem_append.mp hw with hw | hw
    · exact h.rest w hw
    · rw [List.mem_singleton.mp hw]

/-- Whoever is not first is asleep, so taking a call out of the queue leaves nobody awake but
    perhaps the first. -/
theorem Sound.others_tail (h : lock.Sound) (call : Call) :
    ∀ w ∈ (lock.others call).tail, w.woken = false := by
  obtain ⟨held, waiters⟩ := lock
  intro w hw
  cases waiters with
  | nil => cases hw
  | cons first rest =>
    have hrest : w ∈ rest.filter (fun w => w.call ≠ call) := by
      rw [others, List.filter_cons] at hw
      split at hw
      · exact hw
      · exact List.mem_of_mem_tail hw
    exact h.rest w (List.mem_filter.mp hrest).1

/-- The one who takes the lock was the only one awake. -/
theorem Sound.take (h : lock.Sound) {w : Waiter} (hw : w ∈ lock.waiters)
    (hwoken : w.woken = true) : (lock.take w.call).Sound := by
  refine sound_held fun v hv => ?_
  obtain ⟨held, waiters⟩ := lock
  cases waiters with
  | nil => cases hw
  | cons first rest =>
    obtain ⟨hv, hne⟩ := List.mem_filter.mp hv
    -- the one that has been woken is the first, and the first is the one that leaves the queue
    have hfirst : w = first := by
      rcases List.mem_cons.mp hw with rfl | hw
      · rfl
      · rw [h.rest w hw] at hwoken
        cases hwoken
    rcases List.mem_cons.mp hv with rfl | hv
    · simp [hfirst] at hne
    · exact h.rest v hv

theorem Sound.take_of_isFree (hfree : lock.isFree = true) (call : Call) :
    (lock.take call).Sound := by
  refine sound_held fun w hw => ?_
  have hnone : lock.waiters = [] := by
    simp only [isFree, Bool.and_eq_true, List.isEmpty_iff] at hfree
    exact hfree.2
  rw [others, hnone] at hw
  cases hw

theorem Sound.release (h : lock.Sound) : lock.release.Sound :=
  sound_wakeFirst h.rest

/-- If the one who gives up had been woken, the next is woken instead. -/
theorem Sound.abandon (h : lock.Sound) (call : Call) : (lock.abandon call).Sound := by
  cases hheld : lock.held with
  | true =>
    rw [Lock.abandon, hheld]
    exact sound_held fun w hw => h.asleep hheld w (List.mem_filter.mp hw).1
  | false =>
    rw [Lock.abandon, hheld]
    exact sound_wakeFirst (h.others_tail call)

end Lock

end Flowmeter.Collector
