import Flowmeter.Collector.Clock
import Flowmeter.Proofs.Collector.Site

/-!
# A clock chooses an order of events

What a site with a clock does is what its collector does along some list of events, for the clock
only chooses when loops ask for their cycles, and the files only when calls go on. So all that
holds of every list of events holds of a site with a clock, whatever is asked of it. As long as
its files do not stall no time passes, and it does what the site does without a clock.

Nothing is said of when things happen. The times of a clock and its faults decide which events come
and in which order, and the statement is that there is a list of them. This is what carries
everything that is proved of the machine over to the definitions that run: the machine takes any
order of events, and a site with a clock can only take one of these.
-/

set_option autoImplicit false

namespace Flowmeter.Collector

open Service

/-- The client of a request that asks for a cycle. -/
def Site.Request.client? : Site.Request → Option Nat
  | .call client => some client
  | _ => none

namespace Site

variable {site : Site}

/-- A call that goes on is no new call. -/
theorem client?_eventOf {holder : Holder} {event : Event}
    (h : site.eventOf holder = some event) : event.client? = none := by
  unfold eventOf at h
  split at h
  · rw [← Option.some.inj h]
    rfl
  · rw [← Option.some.inj h]
    cases site.stalled <;> rfl
  · cases h

/-- No client asks for a cycle while calls go on. -/
theorem client?_nextEvent? {event : Event} (h : site.nextEvent? = some event) :
    event.client? = none := by
  unfold nextEvent? at h
  split at h
  · exact client?_eventOf h
  · rw [← Option.some.inj h]
    rfl
  · cases h

/-- Going on, with any fuel, is following a list of events. -/
theorem settle_follows (fuel : Nat) (site : Site) : ∃ events : List Event,
    events.filterMap Event.client? = [] ∧ settle fuel site = site.follow events := by
  induction fuel generalizing site with
  | zero => exact ⟨[], rfl, rfl⟩
  | succ fuel ih =>
    cases hnext : site.nextEvent? with
    | none =>
      refine ⟨[], rfl, ?_⟩
      rw [settle, hnext]
      rfl
    | some event =>
      obtain ⟨rest, hclients, hrest⟩ := ih (site.follow [event]).1
      refine ⟨[event] ++ rest, ?_, ?_⟩
      · rw [List.filterMap_append, hclients, List.filterMap_cons_none (client?_nextEvent? hnext)]
        rfl
      · rw [settle, hnext, follow_append, ← hrest]

theorem settleAll_follows (site : Site) : ∃ events : List Event,
    events.filterMap Event.client? = [] ∧ site.settleAll = site.follow events :=
  settle_follows _ site

theorem filterMap_events (request : Request) (loopsBegun : Nat) :
    (request.events loopsBegun).filterMap Event.client? = request.client?.toList := by
  cases request <;> rfl

/-- Requests are events of their own, one for each client that asks. -/
theorem ask_follows (site : Site) (requests : List Request) : ∃ events : List Event,
    events.filterMap Event.client? = requests.filterMap Request.client? ∧
      site.ask requests = site.follow events := by
  induction requests generalizing site with
  | nil => exact ⟨[], rfl, rfl⟩
  | cons request rest ih =>
    obtain ⟨later, hclients, hlater⟩ := ih (site.follow (request.events site.service.loopsBegun)).1
    refine ⟨request.events site.service.loopsBegun ++ later, ?_, ?_⟩
    · rw [List.filterMap_append, filterMap_events, hclients, List.filterMap_cons]
      cases request.client? <;> rfl
    · rw [follow_append, ← hlater]
      rfl

/-- Requests are all made before any call goes on. -/
theorem perform_eq_ask (site : Site) (requests : List Request) :
    site.perform requests = ((site.ask requests).1.settleAll.1,
      (site.ask requests).2 ++ (site.ask requests).1.settleAll.2) := by
  induction requests generalizing site with
  | nil => rfl
  | cons request rest ih =>
    rw [perform_cons, ih, ← List.append_assoc]
    rfl

end Site

namespace ClockedSite

variable {c : ClockedSite}

/-- While time passes loops ask for their cycles and calls run out of their time, and no client
    asks. -/
theorem pass_follows (c : ClockedSite) : ∃ events : List Event,
    events.filterMap Event.client? = [] ∧
      c.pass.1.site = (c.site.follow events).1 ∧ c.pass.2.2 = (c.site.follow events).2 := by
  unfold pass
  split
  · exact ⟨[], rfl, rfl, rfl⟩
  · refine ⟨_, ?_, rfl, rfl⟩
    rw [List.filterMap_map]
    exact List.filterMap_none _

theorem pass_of_unstalled (hfiles : c.site.stalled = false) : c.pass = (c, [], []) := by
  have hdeadline : c.deadline? = none := by
    rw [deadline?, hfiles]
    rfl
  rw [pass, hdeadline]

/-- The parts of what a site with a clock does: the requests, the time that passes, the calls that
    go on, and the loops that fall asleep. -/
theorem perform_eq (c : ClockedSite) (requests : List Site.Request) :
    let asked := c.site.ask requests
    let passed := ({ c with site := asked.1 } : ClockedSite).pass
    let done := passed.1.site.settleAll
    ∃ notices : List Notice, (c.perform requests).1.site = done.1 ∧
      (c.perform requests).2 = asked.2 ++ passed.2.2 ++ done.2 ++ notices.map .notice :=
  ⟨_, rfl, rfl⟩

/-- **A site with a clock does what its collector does along a list of events**, in which the
    clients of the requests ask for cycles, once each and in their order. Loops that fall asleep
    only say that they have overrun. -/
theorem perform_follows (c : ClockedSite) (requests : List Site.Request) :
    ∃ (events : List Event) (notices : List Notice),
      events.filterMap Event.client? = requests.filterMap Site.Request.client? ∧
      (c.perform requests).1.site = (c.site.follow events).1 ∧
      (c.perform requests).2 = (c.site.follow events).2 ++ notices.map .notice := by
  obtain ⟨notices, hsite, heffects⟩ := perform_eq c requests
  obtain ⟨asked, hclients, hask⟩ := c.site.ask_follows requests
  rw [hask] at hsite heffects
  obtain ⟨passed, hpassed, hwoken, hcalled⟩ :=
    pass_follows { c with site := (c.site.follow asked).1 }
  obtain ⟨done, hdone, hsettle⟩ := Site.settleAll_follows ((c.site.follow asked).1.follow passed).1
  rw [hwoken, hcalled, hsettle] at heffects
  rw [hwoken, hsettle] at hsite
  refine ⟨asked ++ passed ++ done, notices, ?_, ?_, ?_⟩
  · rw [List.filterMap_append, List.filterMap_append, hclients, hpassed, hdone, List.append_nil,
      List.append_nil]
  · rw [Site.follow_append, Site.follow_append]
    exact hsite
  · rw [Site.follow_append, Site.follow_append]
    exact heffects

/-- As long as the files do not stall, a clock makes no difference. -/
theorem perform_of_unstalled (hfiles : c.site.stalled = false) (requests : List Site.Request) :
    ∃ notices : List Notice, (c.perform requests).1.site = (c.site.perform requests).1 ∧
      (c.perform requests).2 = (c.site.perform requests).2 ++ notices.map .notice := by
  obtain ⟨notices, hsite, heffects⟩ := perform_eq c requests
  obtain ⟨asked, -, hask⟩ := c.site.ask_follows requests
  have hpass := pass_of_unstalled (c := { c with site := (c.site.ask requests).1 }) (by
    rw [hask]
    exact hfiles)
  rw [hpass] at hsite heffects
  rw [List.append_nil] at heffects
  rw [Site.perform_eq_ask]
  exact ⟨notices, hsite, heffects⟩

end ClockedSite

end Flowmeter.Collector
