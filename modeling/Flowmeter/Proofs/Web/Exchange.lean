import Flowmeter.Proofs.Table
import Flowmeter.Web.Exchange
import Mathlib.Data.List.Induction

/-!
# What is under way

What has happened to an application can be read off the effects alone: which requests have been
let in, which have ended, and so which are under way. The application keeps a list of its own of
those, and for the ones that are limited it has taken places. That the three agree is what every
event keeps, and it holds after any run.

Two things are told apart throughout. What a request comes to when it arrives or ends is worked out
from the application once (`Application.arrive_of_free` and its neighbours, one lemma for each way),
and put together to all that one event can do (`Moves`). What that means for the three accounts of
who is under way is then a case analysis over `Moves` (`Holds.moves`), and nothing below it opens
the application again: the limit, the count of scrapes and bursts are all proved from these seven
cases.

`Holds` has more in it than the agreement. Numbers are given in order and never twice, so a number
that is new has not ended either, and taking the request of a number off the list takes off just
one. Without that a place could be given back for a request that is still under way.
-/

set_option autoImplicit false

namespace Flowmeter.Web

open Flowmeter.Collector Flowmeter.Config

/-- Whether the limit is for a request: one to the telemetry path, as far as the server can tell
    where it has been reached. -/
def Setup.limits (setup : Setup) (request : Request) : Bool :=
  request.target.address?.isSome && Application.isScrape setup request

/-- Where the limit can be compared, what taking a place comes to is decided by the places in
    use. -/
theorem ScrapeLimit.acquire_eq {l : ScrapeLimit} {bound : Bound} (h : l.bound = .ok bound) :
    l.acquire = .ok (if bound.isReached l.inFlight then (false, l)
      else (true, { l with inFlight := l.inFlight + 1 })) := by
  unfold acquire
  rw [h]
  show (if bound.isReached l.inFlight then _ else _) = _
  split <;> rfl

namespace Application

variable {app : Application} {id : Nat} {request : Request} {bound : Bound}

/-! ## What one request does

Four ways to come in, two of them a refusal, and one way out. A request to the telemetry path whose
own address the server cannot tell crashes before its path is compared, so it is none that the limit
is for (`Setup.limits`). -/

/-- The server can tell where such a request has been reached. -/
theorem of_limits {setup : Setup} (h : setup.limits request = true) :
    request.target.address?.isNone = false ∧ isScrape setup request = true := by
  unfold Setup.limits at h
  rw [Bool.and_eq_true] at h
  refine ⟨?_, h.2⟩
  rw [Option.isNone_eq_false_iff]
  exact h.1

theorem arrive_of_free (service : Service) (id : Nat)
    (hbound : app.places.bound = .ok bound) (hlimits : app.setup.limits request = true)
    (hfree : bound.isReached app.places.inFlight = false) :
    app.arrive service id request =
      ({ app with
          admitted := app.admitted ++ [(id, request)]
          places := { app.places with inFlight := app.places.inFlight + 1 } },
        service, .admitted, []) := by
  obtain ⟨hnone, hscrape⟩ := of_limits hlimits
  unfold arrive
  rw [hnone, hscrape, ScrapeLimit.acquire_eq hbound, hfree]
  rfl

/-- Where the limit is reached a scrape is answered at once, under 503, and counted under it. It
    takes no place and is not let in. -/
theorem arrive_of_reached (service : Service) (id : Nat)
    (hbound : app.places.bound = .ok bound) (hlimits : app.setup.limits request = true)
    (hreached : bound.isReached app.places.inFlight = true) :
    ∃ response : Response, response.status = 503 ∧ app.arrive service id request =
      (app, { service with instruments := service.instruments.countScrape 503 },
        .rejected response, [.scrapeRejected app.places.inFlight]) := by
  obtain ⟨hnone, hscrape⟩ := of_limits hlimits
  -- the answer to a request for the head alone has no body, and the status all the same
  refine ⟨if request.method = "HEAD" then Response.tooMany.withoutBody else .tooMany, ?_, ?_⟩
  · split <;> rfl
  · unfold arrive
    rw [hnone, hscrape, ScrapeLimit.acquire_eq hbound, hreached]
    rfl

/-- A request that the limit is not for is let in, unless the server cannot tell where it has been
    reached. -/
theorem arrive_of_not_limits (service : Service) (id : Nat)
    (hlimits : app.setup.limits request = false) :
    (∃ crash, app.arrive service id request = (app, service, .crashed crash, [])) ∨
    isScrape app.setup request = false ∧ app.arrive service id request =
      ({ app with admitted := app.admitted ++ [(id, request)] }, service, .admitted, []) := by
  unfold Setup.limits at hlimits
  unfold arrive
  cases haddress : request.target.address? with
  | none => exact Or.inl ⟨_, rfl⟩
  | some address =>
    rw [haddress, Option.isSome_some, Bool.true_and] at hlimits
    rw [hlimits]
    exact Or.inr ⟨rfl, rfl⟩

/-- A limit that cannot be compared with a number of scrapes lets none in. -/
theorem arrive_of_badLimit {m : Mismatch} (service : Service) (id : Nat)
    (hbound : app.places.bound = .error m) (hlimits : app.setup.limits request = true) :
    ∃ crash, app.arrive service id request = (app, service, .crashed crash, []) := by
  obtain ⟨hnone, hscrape⟩ := of_limits hlimits
  have hacquire : app.places.acquire = .error m := by
    unfold ScrapeLimit.acquire
    rw [hbound]
    rfl
  refine ⟨.badLimit m, ?_⟩
  unfold arrive
  rw [hnone, hscrape, hacquire]
  rfl

theorem finish_of_lookup_none (service : Service) (h : app.admitted.lookup id = none) :
    app.finish service id = (app, service, none) := by
  unfold finish
  rw [h]

/-- However a request ends, the application is left as if it had been broken off. -/
theorem finish_of_lookup (service : Service) (h : app.admitted.lookup id = some request) :
    ∃ service', app.finish service id =
      (app.abandon id, service', some (respond app.setup service request)) := by
  unfold finish abandon
  rw [h]
  dsimp only
  split
  · exact ⟨_, rfl⟩
  · exact ⟨_, rfl⟩

theorem abandon_of_lookup (h : app.admitted.lookup id = some request) : app.abandon id =
    { app with
      admitted := app.admitted.filter (fun r => r.1 != id)
      places := if isScrape app.setup request then app.places.release else app.places } := by
  unfold abandon
  rw [h]
  dsimp only
  split
  · rfl
  · rfl

end Application

namespace Exchange

/-! ## Reading a history

Who is under way according to the effects: those that have been let in and whose end has not come.
The ends are a list of numbers for all time, so an end of a number that is given again would count
against the new one; that it is not given again is part of `Holds`. -/

def Effect.admitted? : Effect → Option (Nat × Request)
  | .arrived number request .admitted => some (number, request)
  | _ => none

def Effect.ended? : Effect → Option Nat
  | .ended number _ => some number
  | _ => none

namespace History

/-- The numbers of the requests that have ended. -/
def ends (history : List Effect) : List Nat := history.filterMap Effect.ended?

/-- The requests that have been let in and have not ended. -/
def pending (history : List Effect) : List (Nat × Request) :=
  (history.filterMap Effect.admitted?).filter (fun r => r.1 ∉ ends history)

/-- Those of them that the limit is for. -/
def scrapes (setup : Setup) (history : List Effect) : List (Nat × Request) :=
  (pending history).filter (fun r => Application.isScrape setup r.2)

variable {history more : List Effect} {number : Nat}

theorem ends_append (history more : List Effect) :
    ends (history ++ more) = ends history ++ ends more :=
  List.filterMap_append

/-- Effects that let nobody in and end nothing change nothing of what is under way. -/
theorem pending_append_of_silent (history : List Effect)
    (h : ∀ e ∈ more, e.admitted? = none ∧ e.ended? = none) :
    pending (history ++ more) = pending history ∧ ends (history ++ more) = ends history := by
  have hadmitted : more.filterMap Effect.admitted? = [] :=
    List.filterMap_eq_nil_iff.mpr fun e he => (h e he).1
  have hends : ends more = [] := List.filterMap_eq_nil_iff.mpr fun e he => (h e he).2
  unfold pending
  rw [ends_append, hends, List.append_nil, List.filterMap_append, hadmitted, List.append_nil]
  exact ⟨rfl, rfl⟩

/-- A new request comes last, provided that its number has not ended before. -/
theorem pending_admitted (hnew : number ∉ ends history) (request : Request) :
    pending (history ++ [.arrived number request .admitted]) =
      pending history ++ [(number, request)] := by
  have hends : ends (history ++ [.arrived number request .admitted]) = ends history := by
    rw [ends_append]
    exact List.append_nil _
  unfold pending
  rw [hends, List.filterMap_append, List.filter_append]
  congr 1
  exact List.filter_cons_of_pos (decide_eq_true hnew)

/-- An end takes its number off and keeps the order of the others. -/
theorem pending_ended (history : List Effect) (number : Nat)
    (outcome : Option (Except Crash Response)) :
    pending (history ++ [.ended number outcome]) =
      (pending history).filter (fun r => r.1 != number) := by
  have hadmitted : (history ++ [Effect.ended number outcome]).filterMap Effect.admitted? =
      history.filterMap Effect.admitted? := by
    rw [List.filterMap_append]
    exact List.append_nil _
  have hends : ends (history ++ [.ended number outcome]) = ends history ++ [number] :=
    ends_append _ _
  unfold pending
  rw [hadmitted, hends, List.filter_filter]
  refine List.filter_congr fun r _ => ?_
  by_cases hr : r.1 = number
  · simp [hr]
  · simp [hr]

end History

open Exchange.History

/-! ## What every event keeps -/

/-- What the application knows is what has happened. -/
structure Holds (setup : Setup) (history : List Effect) (x : Exchange) : Prop where
  setup_eq : x.app.setup = setup
  bound : x.app.places.bound = Bound.ofValue setup.limit
  pending : x.app.admitted = pending history
  /-- No number has been given twice. -/
  distinct : (Association.keys x.app.admitted).Nodup
  admitted_lt : ∀ number ∈ Association.keys x.app.admitted, number < x.arrivals
  ended_lt : ∀ number ∈ ends history, number < x.arrivals
  inFlight : x.app.places.inFlight = (scrapes setup history).length

theorem holds_new (setup : Setup) (service : Service) :
    Holds setup [] (Exchange.new setup service) where
  setup_eq := rfl
  bound := rfl
  pending := rfl
  distinct := List.nodup_nil
  admitted_lt := by
    intro number hnumber
    cases hnumber
  ended_lt := by
    intro number hnumber
    cases hnumber
  inFlight := rfl

variable {setup : Setup} {history more : List Effect} {x : Exchange}

/-- Effects that are silent about coming and going may be added, and numbers may be passed over. -/
theorem Holds.pass (h : Holds setup history x)
    (hsilent : ∀ e ∈ more, e.admitted? = none ∧ e.ended? = none) (service : Service)
    {arrivals : Nat} (hle : x.arrivals ≤ arrivals) :
    Holds setup (history ++ more) ⟨x.app, service, arrivals⟩ := by
  obtain ⟨hpending, hends⟩ := pending_append_of_silent history hsilent
  refine ⟨h.setup_eq, h.bound, ?pending, h.distinct, ?admitted, ?ended, ?inFlight⟩
  case pending => rw [hpending, h.pending]
  case admitted =>
    intro number hnumber
    exact Nat.lt_of_lt_of_le (h.admitted_lt number hnumber) hle
  case ended =>
    intro number hnumber
    rw [hends] at hnumber
    exact Nat.lt_of_lt_of_le (h.ended_lt number hnumber) hle
  case inFlight =>
    unfold scrapes
    rw [hpending]
    exact h.inFlight

/-- A request is let in, and takes a place if the limit is for it. -/
theorem Holds.admit (h : Holds setup history x) (request : Request) (places : ScrapeLimit)
    (hbound : places.bound = x.app.places.bound)
    (hinFlight : places.inFlight =
      x.app.places.inFlight + if Application.isScrape setup request then 1 else 0)
    (service : Service) :
    Holds setup (history ++ [.arrived x.arrivals request .admitted])
      ⟨{ x.app with admitted := x.app.admitted ++ [(x.arrivals, request)], places := places },
        service, x.arrivals + 1⟩ := by
  -- the number that is given now has neither ended nor been let in, for all those are less
  have hnew : x.arrivals ∉ ends history := fun hmem =>
    Nat.lt_irrefl _ (h.ended_lt x.arrivals hmem)
  have hfresh : x.arrivals ∉ Association.keys x.app.admitted := fun hmem =>
    Nat.lt_irrefl _ (h.admitted_lt x.arrivals hmem)
  have hkeys : Association.keys (x.app.admitted ++ [(x.arrivals, request)]) =
      Association.keys x.app.admitted ++ [x.arrivals] := List.map_append
  have hends : ends (history ++ [.arrived x.arrivals request .admitted]) = ends history := by
    rw [ends_append]
    exact List.append_nil _
  refine ⟨h.setup_eq, hbound.trans h.bound, ?pending, ?distinct, ?admitted, ?ended, ?inFlight⟩
  case pending =>
    rw [pending_admitted hnew, ← h.pending]
  case distinct =>
    show (Association.keys (x.app.admitted ++ [(x.arrivals, request)])).Nodup
    rw [hkeys]
    exact List.Nodup.append h.distinct (List.nodup_singleton _)
      (List.disjoint_singleton.mpr hfresh)
  case admitted =>
    intro number hnumber
    rw [hkeys, List.mem_append, List.mem_singleton] at hnumber
    rcases hnumber with hnumber | rfl
    · exact Nat.lt_succ_of_lt (h.admitted_lt number hnumber)
    · exact Nat.lt_succ_self _
  case ended =>
    intro number hnumber
    rw [hends] at hnumber
    exact Nat.lt_succ_of_lt (h.ended_lt number hnumber)
  -- one more scrape is under way just if it is one that has come
  case inFlight =>
    unfold scrapes
    rw [hinFlight, h.inFlight, pending_admitted hnew, List.filter_append, List.length_append,
      scrapes, List.filter_cons]
    split <;> simp

/-- A request ends, however it does, and gives its place back if it had one. -/
theorem Holds.depart (h : Holds setup history x) {number : Nat} {request : Request}
    (hlookup : x.app.admitted.lookup number = some request)
    (outcome : Option (Except Crash Response)) (service : Service) :
    Holds setup (history ++ [.ended number outcome])
      ⟨x.app.abandon number, service, x.arrivals⟩ := by
  have hends : ends (history ++ [.ended number outcome]) = ends history ++ [number] :=
    ends_append _ _
  have hsublist : (Association.keys (x.app.admitted.filter (fun r => r.1 != number))).Sublist
      (Association.keys x.app.admitted) := List.filter_sublist.map _
  have hmem : number ∈ Association.keys x.app.admitted :=
    List.mem_map.mpr ⟨_, Association.mem_of_lookup_eq_some hlookup, rfl⟩
  rw [Application.abandon_of_lookup hlookup]
  refine ⟨h.setup_eq, ?bound, ?pending, h.distinct.sublist hsublist, ?admitted, ?ended, ?inFlight⟩
  case bound =>
    rw [← h.bound]
    dsimp only
    split
    · rfl
    · rfl
  case pending => rw [pending_ended, ← h.pending]
  case admitted =>
    intro other hother
    exact h.admitted_lt other (hsublist.subset hother)
  case ended =>
    intro other hother
    rw [hends, List.mem_append, List.mem_singleton] at hother
    rcases hother with hother | rfl
    · exact h.ended_lt other hother
    · exact h.admitted_lt other hmem
  case inFlight =>
    -- numbers are distinct, so just one request goes, and with it at most one place
    have hcount := Association.length_filter_of_lookup h.distinct hlookup
      (Application.isScrape setup)
    have hbefore := h.inFlight
    unfold scrapes at hbefore ⊢
    rw [← h.pending] at hbefore
    rw [pending_ended, ← h.pending, h.setup_eq]
    cases hscrape : Application.isScrape setup request with
    | true =>
      rw [hscrape, if_pos rfl] at hcount
      show x.app.places.inFlight - 1 = _
      omega
    | false =>
      rw [hscrape, if_neg Bool.false_ne_true, Nat.add_zero] at hcount
      show x.app.places.inFlight = _
      omega

/-! ## One event -/

/-- The number of the request that an event brings to its end. -/
def Event.ends? : Event → Option Nat
  | .finish number | .abandon number => some number
  | _ => none

/-- All that one event can do. -/
inductive Moves (x : Exchange) : Event → Exchange → List Effect → Prop where
  | crash {request : Request} (crash : Crash)
      (cause : x.app.setup.limits request = false ∨ ∃ m, x.app.places.bound = .error m) :
      Moves x (.arrive request) ⟨x.app, x.service, x.arrivals + 1⟩
        [.arrived x.arrivals request (.crashed crash)]
  | reject {request : Request} {bound : Bound} (response : Response) (service : Service)
      (limits : x.app.setup.limits request = true) (ofBound : x.app.places.bound = .ok bound)
      (reached : bound.isReached x.app.places.inFlight = true) (status : response.status = 503) :
      Moves x (.arrive request) ⟨x.app, service, x.arrivals + 1⟩
        [.arrived x.arrivals request (.rejected response),
          .notice (.scrapeRejected x.app.places.inFlight)]
  /-- A scrape takes a place. -/
  | take {request : Request} {bound : Bound} (limits : x.app.setup.limits request = true)
      (ofBound : x.app.places.bound = .ok bound)
      (free : bound.isReached x.app.places.inFlight = false) :
      Moves x (.arrive request)
        ⟨{ x.app with
            admitted := x.app.admitted ++ [(x.arrivals, request)]
            places := { x.app.places with inFlight := x.app.places.inFlight + 1 } },
          x.service, x.arrivals + 1⟩
        [.arrived x.arrivals request .admitted]
  /-- A request that the limit is not for comes in. -/
  | enter {request : Request} (limits : x.app.setup.limits request = false)
      (other : Application.isScrape x.app.setup request = false) :
      Moves x (.arrive request)
        ⟨{ x.app with admitted := x.app.admitted ++ [(x.arrivals, request)] },
          x.service, x.arrivals + 1⟩
        [.arrived x.arrivals request .admitted]
  | leave {event : Event} {number : Nat} {request : Request} (ending : event.ends? = some number)
      (inside : x.app.admitted.lookup number = some request)
      (outcome : Option (Except Crash Response)) (service : Service) :
      Moves x event ⟨x.app.abandon number, service, x.arrivals⟩ [.ended number outcome]
  /-- What is not there does not end. -/
  | stay {event : Event} {number : Nat} (ending : event.ends? = some number)
      (outside : x.app.admitted.lookup number = none) : Moves x event x []
  | collect (event : Service.Event) (service : Service) (effects : List Collector.Effect) :
      Moves x (.collect event) ⟨x.app, service, x.arrivals⟩ (effects.map .collector)

theorem step_arrive (x : Exchange) {request : Request} {app : Application} {service : Service}
    {arrival : Application.Arrival} {notices : List Notice}
    (h : x.app.arrive x.service x.arrivals request = (app, service, arrival, notices)) :
    x.step (.arrive request) = (⟨app, service, x.arrivals + 1⟩,
      .arrived x.arrivals request arrival :: notices.map .notice) := by
  simp only [step, h]

/-- Whatever arrives, the application and its limit decide among the first four moves. -/
theorem moves_arrive (x : Exchange) (request : Request) :
    Moves x (.arrive request) (x.step (.arrive request)).1 (x.step (.arrive request)).2 := by
  cases hlimits : x.app.setup.limits request with
  | false =>
    rcases Application.arrive_of_not_limits x.service x.arrivals hlimits with
      ⟨crash, harrive⟩ | ⟨hother, harrive⟩
    · rw [step_arrive x harrive]
      exact .crash crash (Or.inl hlimits)
    · rw [step_arrive x harrive]
      exact .enter hlimits hother
  | true =>
    cases hbound : x.app.places.bound with
    | error m =>
      obtain ⟨crash, harrive⟩ :=
        Application.arrive_of_badLimit x.service x.arrivals hbound hlimits
      rw [step_arrive x harrive]
      exact .crash crash (Or.inr ⟨m, hbound⟩)
    | ok bound =>
      cases hreached : bound.isReached x.app.places.inFlight with
      | false =>
        rw [step_arrive x (Application.arrive_of_free x.service x.arrivals hbound hlimits hreached)]
        exact .take hlimits hbound hreached
      | true =>
        obtain ⟨response, hstatus, harrive⟩ :=
          Application.arrive_of_reached x.service x.arrivals hbound hlimits hreached
        rw [step_arrive x harrive]
        exact .reject response _ hlimits hbound hreached hstatus

/-- The end of a request that is there is a departure, with whatever it has come to. -/
theorem moves_finish (x : Exchange) (number : Nat) :
    Moves x (.finish number) (x.step (.finish number)).1 (x.step (.finish number)).2 := by
  cases hlookup : x.app.admitted.lookup number with
  | none =>
    simp only [step, Application.finish_of_lookup_none x.service hlookup]
    exact .stay rfl hlookup
  | some request =>
    obtain ⟨service, hfinish⟩ := Application.finish_of_lookup x.service hlookup
    simp only [step, hfinish]
    exact .leave rfl hlookup _ service

theorem moves_abandon (x : Exchange) (number : Nat) :
    Moves x (.abandon number) (x.step (.abandon number)).1 (x.step (.abandon number)).2 := by
  cases hlookup : x.app.admitted.lookup number with
  | none =>
    simp only [step, hlookup, Option.isSome_none, if_neg Bool.false_ne_true]
    exact .stay rfl hlookup
  | some request =>
    simp only [step, hlookup, Option.isSome_some, if_true]
    exact .leave rfl hlookup none x.service

theorem moves_step (x : Exchange) (event : Event) :
    Moves x event (x.step event).1 (x.step event).2 := by
  cases event with
  | arrive request => exact moves_arrive x request
  | finish number => exact moves_finish x number
  | abandon number => exact moves_abandon x number
  | collect event => exact .collect event _ _

/-- What the application knows is what has happened, after one more event as before it. -/
theorem Holds.moves {event : Event} {x' : Exchange} (h : Holds setup history x)
    (hmoves : Moves x event x' more) : Holds setup (history ++ more) x' := by
  cases hmoves with
  | crash => exact h.pass (by simp [Effect.admitted?, Effect.ended?]) x.service (Nat.le_succ _)
  | reject response service =>
    exact h.pass (by simp [Effect.admitted?, Effect.ended?]) service (Nat.le_succ _)
  | take hlimits =>
    refine h.admit _ { x.app.places with inFlight := x.app.places.inFlight + 1 } rfl ?_ x.service
    have hscrape := (Application.of_limits hlimits).2
    rw [h.setup_eq] at hscrape
    rw [hscrape]
    rfl
  | enter hlimits hother =>
    refine h.admit _ x.app.places rfl ?_ x.service
    rw [h.setup_eq] at hother
    rw [hother]
    exact (Int.add_zero _).symm
  | leave hending hinside outcome service => exact h.depart hinside outcome service
  | stay => exact h.pass (fun e he => absurd he List.not_mem_nil) x.service (Nat.le_refl _)
  | collect event service effects =>
    refine h.pass ?_ service (Nat.le_refl _)
    intro e he
    obtain ⟨effect, -, rfl⟩ := List.mem_map.mp he
    exact ⟨rfl, rfl⟩

/-! ## Runs -/

theorem run_snoc (x : Exchange) (events : List Event) (event : Event) :
    x.run (events ++ [event]) = (((x.run events).1.step event).1,
      (x.run events).2 ++ ((x.run events).1.step event).2) := by
  unfold run
  rw [List.foldl_append]
  rfl

/-- After any run the three accounts of who is under way are one. -/
theorem holds_run (setup : Setup) (service : Service) (events : List Event) :
    Holds setup ((Exchange.new setup service).run events).2
      ((Exchange.new setup service).run events).1 := by
  induction events using List.reverseRecOn with
  | nil => exact holds_new setup service
  | append_singleton events event ih =>
    rw [run_snoc]
    exact ih.moves (moves_step _ event)

/-! ## Bursts

A number of equal scrapes that all arrive before any of them ends is what the recorded runs of the
server are made of. The function that plays them keeps only the answers. It is a run among others,
read through `outcome`, so all that is proved of runs holds of it. -/

/-- What has been answered, in order. -/
def Effect.answer? : Effect → Option (Except Crash Response)
  | .arrived _ _ (.rejected response) => some (.ok response)
  | .arrived _ _ (.crashed crash) => some (.error crash)
  | .ended _ (some outcome) => some outcome
  | _ => none

/-- An application with its collector, and the answers so far. -/
abbrev Answered := Application × Service × List (Except Crash Response)

def outcome (x : Exchange × List Effect) : Answered :=
  (x.1.app, x.1.service, x.2.filterMap Effect.answer?)

def arriveNext (request : Request) : Answered → Nat → Answered
  | (app, service, answers), id =>
      let (app, service, arrival, _) := app.arrive service id request
      match arrival with
      | .admitted => (app, service, answers)
      | .rejected response => (app, service, answers ++ [.ok response])
      | .crashed crash => (app, service, answers ++ [.error crash])

def finishNext : Answered → Nat → Answered
  | (app, service, answers), id =>
      match app.finish service id with
      | (app, service, some outcome) => (app, service, answers ++ [outcome])
      | (app, service, none) => (app, service, answers)

theorem burst_eq (app : Application) (service : Service) (request : Request) (n : Nat) :
    app.burst service request n =
      (List.range n).foldl finishNext
        ((List.range n).foldl (arriveNext request) (app, service, [])) := by
  unfold Application.burst
  rfl

/-- One arrival, seen through the answers. -/
theorem outcome_arrive (x : Exchange) (history : List Effect) (request : Request) :
    outcome ((x.step (.arrive request)).1, history ++ (x.step (.arrive request)).2) =
      arriveNext request (outcome (x, history)) x.arrivals := by
  rcases harrive : x.app.arrive x.service x.arrivals request with
    ⟨app, service, arrival, notices⟩
  have hnotices : (notices.map Effect.notice).filterMap Effect.answer? = [] := by
    refine List.filterMap_eq_nil_iff.mpr fun e he => ?_
    obtain ⟨notice, -, rfl⟩ := List.mem_map.mp he
    rfl
  rw [step_arrive x harrive]
  unfold outcome arriveNext
  dsimp only
  rw [harrive, List.filterMap_append, List.filterMap_cons, hnotices]
  cases arrival with
  | admitted =>
    show (app, service, _ ++ []) = _
    rw [List.append_nil]
  | rejected response => rfl
  | crashed crash => rfl

theorem outcome_finish (x : Exchange) (history : List Effect) (number : Nat) :
    outcome ((x.step (.finish number)).1, history ++ (x.step (.finish number)).2) =
      finishNext (outcome (x, history)) number := by
  unfold outcome finishNext
  cases hlookup : x.app.admitted.lookup number with
  | none =>
    simp only [step, Application.finish_of_lookup_none x.service hlookup, List.append_nil]
  | some request =>
    obtain ⟨service, hfinish⟩ := Application.finish_of_lookup x.service hlookup
    simp only [step, hfinish, List.filterMap_append]
    rfl

theorem arrivals_run_arrive (x : Exchange) (request : Request) (n : Nat) :
    (x.run (List.replicate n (.arrive request))).1.arrivals = x.arrivals + n := by
  induction n with
  | zero => rfl
  | succ n ih =>
    rw [List.replicate_succ', run_snoc, ← Nat.add_assoc, ← ih]
    rfl

theorem foldl_arriveNext (app : Application) (service : Service) (request : Request) (n : Nat) :
    (List.range n).foldl (arriveNext request) (app, service, []) =
      outcome ((Exchange.mk app service 0).run (List.replicate n (.arrive request))) := by
  induction n with
  | zero => rfl
  | succ n ih =>
    -- the numbers of a burst are those that a run would give
    have hnumber := arrivals_run_arrive ⟨app, service, 0⟩ request n
    rw [Nat.zero_add] at hnumber
    rw [List.range_succ, List.foldl_append, ih, List.replicate_succ', run_snoc, outcome_arrive,
      hnumber]
    rfl

theorem foldl_finishNext (x : Exchange) (before : List Event) (numbers : List Nat) :
    numbers.foldl finishNext (outcome (x.run before)) =
      outcome (x.run (before ++ numbers.map .finish)) := by
  -- from the right: a run is continued at its end
  induction numbers using List.reverseRecOn with
  | nil =>
    rw [List.map_nil, List.append_nil]
    rfl
  | append_singleton numbers number ih =>
    rw [List.foldl_append, ih, List.map_append, ← List.append_assoc]
    show _ = outcome (x.run (before ++ numbers.map .finish ++ [.finish number]))
    rw [run_snoc, outcome_finish]
    rfl

/-- Equal requests that all arrive before any of them ends are one run among others. -/
theorem burst_eq_run (app : Application) (service : Service) (request : Request) (n : Nat) :
    app.burst service request n = outcome ((Exchange.mk app service 0).run
      (List.replicate n (.arrive request) ++ (List.range n).map .finish)) := by
  rw [burst_eq, foldl_arriveNext, foldl_finishNext]

end Exchange

end Flowmeter.Web
