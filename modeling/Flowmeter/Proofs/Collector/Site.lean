import Flowmeter.Collector.Site
import Flowmeter.Proofs.Collector.Serial

/-!
# A site carries its calls to their ends

A site takes one of the orders in which events can come, and as many steps as there can be work
for. So as long as its files do not stall, clients that ask at the same time are each given a
result, and what is said of undisturbed calls holds of them.

A site is the collector as it is run: it chooses the next event itself and goes on until there is
none, with fuel to bound it. What is proved of the collector is about lists of events that anybody
may choose. The theorems here carry the one over to the other: what a site does is what its
collector does along a certain list of events, by which nothing is broken off, and the fuel is never
used up.
-/

set_option autoImplicit false

namespace Flowmeter.Collector.Site

open Service

variable {site : Site} {active : List Call}

/-- An unstalled site goes on just as long as a call has not ended, and each event leaves one step
    less. -/
theorem nextEvent?_spec (h : site.service.turns.Phase site.reading active)
    (hnodup : active.Nodup) (hfiles : site.stalled = false) :
    (active = [] ∧ site.nextEvent? = none) ∨
      ∃ event : Event, site.nextEvent? = some event ∧ event.Undisturbed site.reading ∧
        event.client? = none ∧
        (site.service.step event).1.turns.work + 1 = site.service.turns.work := by
  cases h with
  | idle h =>
    refine Or.inl ⟨rfl, ?_⟩
    rw [nextEvent?, h.holders, h.lock]
    rfl
  | @woken call rest h =>
    refine Or.inr ⟨.enter call.number, ?_, trivial, rfl,
      work_enter h (List.nodup_cons.mp hnodup).1⟩
    rw [nextEvent?, h.holders, h.lock]
  -- files that stall would leave the call waiting here
  | @reading call reading rest h =>
    refine Or.inr ⟨.finish reading site.reading, ?_, rfl, rfl, work_finish h site.reading⟩
    rw [nextEvent?, h.holders, h.lock]
    simp only [eventOf, hfiles]
    rfl
  | @finished call rest h =>
    obtain ⟨reading, hholders⟩ := h.holders
    refine Or.inr ⟨.conclude call.number 1 0, ?_, trivial, rfl, work_conclude h 1 0⟩
    rw [nextEvent?, hholders, h.lock]
    rfl

/-- To follow two lists is to follow the one and then the other. -/
theorem follow_append (site : Site) (events more : List Event) :
    site.follow (events ++ more) = (((site.follow events).1.follow more).1,
      (site.follow events).2 ++ ((site.follow events).1.follow more).2) := by
  unfold follow
  rw [run_append]

/-- With enough steps for the work that is left, all calls come to their ends. -/
theorem settle_eq_follow (h : site.service.turns.Phase site.reading active)
    (hnodup : active.Nodup) (hfiles : site.stalled = false) {fuel : Nat}
    (hfuel : site.service.turns.work ≤ fuel) : ∃ events : List Event,
      (∀ event ∈ events, event.Undisturbed site.reading) ∧ events.filterMap Event.client? = [] ∧
      settle fuel site = site.follow events ∧
      (site.follow events).1.service.turns.active = [] := by
  -- the files stay as they are, so every reading yields what the first would have
  induction fuel generalizing site active with
  | zero =>
    have hactive := h.work_eq_zero_iff.mp (Nat.le_zero.mp hfuel)
    exact ⟨[], by simp, rfl, rfl, h.active_eq.trans hactive⟩
  | succ fuel ih =>
    rcases nextEvent?_spec h hnodup hfiles with
      ⟨hactive, hnext⟩ | ⟨event, hnext, hundisturbed, hclient, hwork⟩
    · refine ⟨[], by simp, rfl, ?_, h.active_eq.trans hactive⟩
      rw [settle, hnext]
      rfl
    · obtain ⟨done, active', hserved⟩ := (happens h hundisturbed).served hnodup
      have hnodup' : active'.Nodup := by
        have hcalls := hserved.calls
        rw [hclient] at hcalls
        rw [← List.append_nil active, show active ++ [] = done ++ active' from hcalls] at hnodup
        exact hnodup.of_append_right
      have hphase : (site.follow [event]).1.service.turns.Phase (site.follow [event]).1.reading
          active' := hserved.phase
      have hless : (site.follow [event]).1.service.turns.work ≤ fuel := by
        show (site.service.step event).1.turns.work ≤ fuel
        omega
      obtain ⟨events, hevents, hclients, hsettle, hended⟩ := ih hphase hnodup' hfiles hless
      -- the event of this step, and then those of the rest
      refine ⟨[event] ++ events, ?_, ?_, ?_, ?_⟩
      · exact List.forall_mem_append.mpr
          ⟨List.forall_mem_singleton.mpr hundisturbed, hevents⟩
      · rw [List.filterMap_append, hclients, List.filterMap_cons_none hclient]
        rfl
      · rw [settle, hnext, follow_append, ← hsettle]
      · rw [follow_append]
        exact hended

theorem perform_cons (site : Site) (request : Request) (rest : List Request) :
    site.perform (request :: rest) =
      (((site.follow (request.events site.service.loopsBegun)).1.perform rest).1,
        (site.follow (request.events site.service.loopsBegun)).2 ++
          ((site.follow (request.events site.service.loopsBegun)).1.perform rest).2) := rfl

/-- Clients that ask come one by one before the site goes on. -/
theorem perform_calls (site : Site) (clients : List Nat) :
    site.perform (clients.map .call) =
      ((site.follow (clients.map .call)).1.settleAll.1,
        (site.follow (clients.map .call)).2 ++
          (site.follow (clients.map .call)).1.settleAll.2) := by
  induction clients generalizing site with
  | nil => rfl
  | cons client rest ih =>
    have hfollow := follow_append site [.call client] (rest.map .call)
    rw [List.singleton_append, ← List.map_cons] at hfollow
    rw [hfollow, List.map_cons, perform_cons, Request.events, ih, List.append_assoc]

/-- **Clients that ask a site at the same time are undisturbed calls that all end.** -/
theorem run_eq_follow (hidle : site.service.turns.Idle) (hfiles : site.stalled = false)
    (clients : Nat) : ∃ events : List Event,
      (∀ event ∈ events, event.Undisturbed site.reading) ∧
      events.filterMap Event.client? = List.range clients ∧
      site.run clients = site.follow events ∧
      (site.follow events).1.service.turns.active = [] := by
  let asked : List Event := (List.range clients).map .call
  have hcalls : ∀ event ∈ asked, event.Undisturbed site.reading := by
    intro event hevent
    obtain ⟨client, -, rfl⟩ := List.mem_map.mp hevent
    trivial
  obtain ⟨done, active, hserved⟩ := served_run hidle hcalls
  have hphase : (site.follow asked).1.service.turns.Phase (site.follow asked).1.reading active :=
    hserved.phase
  have hwork := hphase.work_le
  rw [← hphase.active_eq] at hwork
  obtain ⟨events, hevents, hclients, hsettle, hended⟩ :=
    settle_eq_follow hphase hserved.nodup hfiles hwork
  refine ⟨asked ++ events, List.forall_mem_append.mpr ⟨hcalls, hevents⟩, ?_, ?_, ?_⟩
  · rw [List.filterMap_append, hclients, List.append_nil, List.filterMap_map]
    exact List.filterMap_some
  · have hall : (site.follow asked).1.settleAll = (site.follow asked).1.follow events := hsettle
    rw [run, perform_calls, follow_append, ← hall]
  · rw [follow_append]
    exact hended

end Flowmeter.Collector.Site
