import Flowmeter.Proofs.Collector.Status
import Flowmeter.Proofs.Metrics.Scrape
import Flowmeter.Proofs.Web.Places

/-!
# The scrapes that are counted

A request gets a response when it is turned away or when it ends; it may also crash on its way in
or at its end, or be broken off, and then it gets none. The effects tell which of these has
happened to each, and to each only one of them happens. The count of scrapes grows by one with
every response to a scrape, under its status, and with nothing else: a scrape whose response
cannot be made leaves no trace in it.

What is to be counted is read off the effects alone (`scrapeStatuses`), with no look at the state of
the application: the status of a response stands in the effect by which it is given, and which
request it belongs to is looked up among the arrivals. The count itself is what the middleware
writes when it has a response in its hands. That the two agree is kept event by event (`Accounted`),
and needs two things that are not about counting at all.

* Numbers. A response is given to a number, and the request is found by it. So a number must stand
  for one request for good: arrivals are numbered in a row (`Accounted.numbers`), and what has
  arrived before keeps being found when more arrives (`Accounted.lookup_append`).
* Fates. A request is under way, or has had its response, or is over without one, and never two of
  these (`Accounted.fate`). Without it the sum would hold of a history in which one scrape is
  answered twice and another never.

That every scrape is counted when it has ended fails at one place only, where making the response
crashes: the place of the scrape is given back and the count is passed by.
`unanswered_scrape_uncounted` is such a run.
-/

set_option autoImplicit false

namespace Flowmeter.Web

namespace Exchange

open Flowmeter.Collector Flowmeter.Instruments
open Exchange.History

/-! ## Fates in a history

The three readings of an effect below are exclusive. A response comes at the arrival of a request
that is turned away or at the end of one that was let in; a crash may come at either place. -/

def Effect.request? : Effect → Option (Nat × Request)
  | .arrived number request _ => some (number, request)
  | _ => none

/-- The number of a request and the status of the response to it. -/
def Effect.status? : Effect → Option (Nat × Nat)
  | .arrived number _ (.rejected response) => some (number, response.status)
  | .ended number (some (.ok response)) => some (number, response.status)
  | _ => none

/-- The number of a request that is over without a response. -/
def Effect.unanswered? : Effect → Option Nat
  | .arrived number _ (.crashed _) => some number
  | .ended number none => some number
  | .ended number (some (.error _)) => some number
  | _ => none

namespace History

def requests (history : List Effect) : List (Nat × Request) :=
  history.filterMap Effect.request?

def statuses (history : List Effect) : List (Nat × Nat) :=
  history.filterMap Effect.status?

def unanswered (history : List Effect) : List Nat :=
  history.filterMap Effect.unanswered?

/-- The statuses of the responses to scrapes. -/
def scrapeStatuses (setup : Setup) (history : List Effect) : List (Nat × Nat) :=
  (statuses history).filter fun r =>
    ((requests history).lookup r.1).any (Application.isScrape setup)

/-- How many times a request has been answered or has come to an end without an answer. -/
def timesOver (history : List Effect) (number : Nat) : Nat :=
  ((statuses history).map Prod.fst).count number + (unanswered history).count number

variable (history more : List Effect)

theorem requests_append : requests (history ++ more) = requests history ++ requests more :=
  List.filterMap_append

theorem statuses_append : statuses (history ++ more) = statuses history ++ statuses more :=
  List.filterMap_append

/-- What has become of a number in a history is the sum over the parts of the history. -/
theorem timesOver_append (number : Nat) : timesOver (history ++ more) number =
    timesOver history number + timesOver more number := by
  have hunanswered : unanswered (history ++ more) = unanswered history ++ unanswered more :=
    List.filterMap_append
  unfold timesOver
  rw [statuses_append, hunanswered, List.map_append, List.count_append, List.count_append]
  omega

/-- What the collector does is no part of what becomes of requests. -/
theorem filterMap_collector {β : Type} (f : Effect → Option β) (hf : ∀ e, f (.collector e) = none)
    (effects : List Collector.Effect) : (effects.map .collector).filterMap f = [] := by
  refine List.filterMap_eq_nil_iff.mpr fun e he => ?_
  obtain ⟨effect, -, rfl⟩ := List.mem_map.mp he
  exact hf effect

/-- A request that is under way has arrived. -/
theorem mem_requests_of_mem_pending {r : Nat × Request} (h : r ∈ pending history) :
    r ∈ requests history := by
  obtain ⟨e, he, hadmitted⟩ := List.mem_filterMap.mp (List.mem_filter.mp h).1
  refine List.mem_filterMap.mpr ⟨e, he, ?_⟩
  unfold Effect.admitted? at hadmitted
  split at hadmitted
  · exact hadmitted
  · cases hadmitted

end History

/-! ## One event

All ways to arrive are told apart here once more, by what they do to the count. The rules for what
an arrival can come to are those that the limit was proved from (`Application.arrive_of_reached` and
its neighbours), so none of this opens the middleware again except `scrapes_finish`, which says what
an end does to the count. -/

/-- The request that an event is about, if it is there. -/
def Event.request? (x : Exchange) : Event → Option Request
  | .arrive request => some request
  | .finish number | .abandon number => x.app.admitted.lookup number
  | .collect _ => none

/-- What one event does to the count of scrapes: nothing, unless it brings a response to one. -/
inductive Tallies (x : Exchange) (event : Event) (x' : Exchange) (more : List Effect) : Prop where
  | silent (mute : statuses more = [])
      (same : x'.service.instruments.scrapes = x.service.instruments.scrapes)
  | answer {request : Request} {number status : Nat} (about : event.request? x = some request)
      (one : statuses more = [(number, status)])
      (counted : x'.service.instruments.scrapes =
        if Application.isScrape x.app.setup request then
          bump x.service.instruments.scrapes (toString status)
        else x.service.instruments.scrapes)

variable {x : Exchange}

/-- An arrival is answered only if it is turned away, and only a scrape is. Its answer is counted
    under 503 there and then. -/
theorem tallies_arrive (x : Exchange) (request : Request) :
    Tallies x (.arrive request) (x.step (.arrive request)).1 (x.step (.arrive request)).2 := by
  cases hlimits : x.app.setup.limits request with
  | false =>
    rcases Application.arrive_of_not_limits x.service x.arrivals hlimits with
      ⟨crash, harrive⟩ | ⟨-, harrive⟩
    · rw [step_arrive x harrive]
      exact .silent rfl rfl
    · rw [step_arrive x harrive]
      exact .silent rfl rfl
  | true =>
    cases hbound : x.app.places.bound with
    | error m =>
      obtain ⟨crash, harrive⟩ :=
        Application.arrive_of_badLimit x.service x.arrivals hbound hlimits
      rw [step_arrive x harrive]
      exact .silent rfl rfl
    | ok bound =>
      cases hreached : bound.isReached x.app.places.inFlight with
      | false =>
        rw [step_arrive x (Application.arrive_of_free x.service x.arrivals hbound hlimits hreached)]
        exact .silent rfl rfl
      | true =>
        obtain ⟨response, hstatus, harrive⟩ :=
          Application.arrive_of_reached x.service x.arrivals hbound hlimits hreached
        rw [step_arrive x harrive]
        have hone : statuses (.arrived x.arrivals request (.rejected response) ::
            [Notice.scrapeRejected x.app.places.inFlight].map .notice) = [(x.arrivals, 503)] := by
          rw [← hstatus]
          rfl
        -- the count is kept for scrapes only, and what the limit applies to is one
        refine .answer rfl hone ?_
        rw [(Application.of_limits hlimits).2]
        rfl

/-- A request that ends is counted if it is a scrape and its response can be made. -/
theorem scrapes_finish (app : Application) (service : Service) {number : Nat} {request : Request}
    (h : app.admitted.lookup number = some request) :
    (app.finish service number).2.1.instruments.scrapes =
      match respond app.setup service request with
      | .ok response =>
          if Application.isScrape app.setup request then
            bump service.instruments.scrapes (toString response.status)
          else service.instruments.scrapes
      | .error _ => service.instruments.scrapes := by
  unfold Application.finish
  rw [h]
  cases hscrape : Application.isScrape app.setup request with
  | true =>
    cases hrespond : respond app.setup service request with
    | ok response => simp only [hscrape, hrespond]; rfl
    | error crash => simp only [hscrape, hrespond]; rfl
  | false =>
    cases hrespond : respond app.setup service request with
    | ok response => simp only [hscrape]; rfl
    | error crash => simp only [hscrape]; rfl

/-- A request that ends is answered with what is made of the state at that moment, or it crashes. -/
theorem tallies_finish (x : Exchange) (number : Nat) :
    Tallies x (.finish number) (x.step (.finish number)).1 (x.step (.finish number)).2 := by
  cases hlookup : x.app.admitted.lookup number with
  | none =>
    simp only [step, Application.finish_of_lookup_none x.service hlookup]
    exact .silent rfl rfl
  | some request =>
    have hscrapes := scrapes_finish x.app x.service hlookup
    obtain ⟨service, hfinish⟩ := Application.finish_of_lookup x.service hlookup
    rw [hfinish] at hscrapes
    simp only [step, hfinish]
    cases hrespond : respond x.app.setup x.service request with
    | ok response =>
      rw [hrespond] at hscrapes
      exact .answer hlookup rfl hscrapes
    | error crash =>
      rw [hrespond] at hscrapes
      -- no response, so nothing was written down
      exact .silent rfl hscrapes

/-- One that is broken off has no response, whether or not it was there. -/
theorem tallies_abandon (x : Exchange) (number : Nat) :
    Tallies x (.abandon number) (x.step (.abandon number)).1 (x.step (.abandon number)).2 := by
  unfold step
  dsimp only
  split
  · exact .silent rfl rfl
  · exact .silent rfl rfl

/-- The collector counts its cycles, and no scrapes. -/
theorem tallies_collect (x : Exchange) (event : Service.Event) :
    Tallies x (.collect event) (x.step (.collect event)).1 (x.step (.collect event)).2 := by
  have hkept : Kept fun books => books.instruments.scrapes = x.service.instruments.scrapes :=
    ⟨fun _ _ h => h, fun _ _ _ _ h => h⟩
  -- `Kept` is what cycles keep of the books; the count of scrapes is among it
  exact .silent (filterMap_collector _ (fun _ => rfl) _) (hkept.step rfl event)

theorem tallies_step (x : Exchange) (event : Event) :
    Tallies x event (x.step event).1 (x.step event).2 := by
  cases event with
  | arrive request => exact tallies_arrive x request
  | finish number => exact tallies_finish x number
  | abandon number => exact tallies_abandon x number
  | collect event => exact tallies_collect x event

/-! ## What every event keeps -/

/-- Each request has a number of its own and one fate, and the scrapes answered are counted. -/
structure Accounted (setup : Setup) (before : Table String Nat) (history : List Effect)
    (x : Exchange) : Prop where
  numbers : (requests history).map Prod.fst = List.range x.arrivals
  fate : ∀ number, timesOver history number + (x.app.admitted.map Prod.fst).count number =
    if number < x.arrivals then 1 else 0
  count : ∀ label, countOf x.service.instruments.scrapes label =
    countOf before label + (scrapeStatuses setup history).countP fun r => toString r.2 = label

variable {setup : Setup} {before : Table String Nat} {history more : List Effect} {x' : Exchange}
  {event : Event}

theorem accounted_new (setup : Setup) (service : Service) :
    Accounted setup service.instruments.scrapes [] (Exchange.new setup service) where
  numbers := rfl
  fate := by
    intro number
    rfl
  count := by
    intro label
    rfl

/-- Whatever an arrival comes to, it takes the next number; nothing else takes one. -/
theorem numbers_moves (hmoves : Moves x event x' more)
    (h : (requests history).map Prod.fst = List.range x.arrivals) :
    (requests (history ++ more)).map Prod.fst = List.range x'.arrivals := by
  rw [requests_append, List.map_append, h]
  cases hmoves with
  | crash => exact List.range_succ.symm
  | reject => exact List.range_succ.symm
  | take => exact List.range_succ.symm
  | enter => exact List.range_succ.symm
  | leave => exact List.append_nil _
  | stay => exact List.append_nil _
  | collect event service effects =>
    have hnone : requests (effects.map .collector) = [] :=
      filterMap_collector _ (fun _ => rfl) effects
    rw [hnone]
    exact List.append_nil _

/-- An end is an end, with a response or without. -/
theorem timesOver_ended (number other : Nat) (outcome : Option (Except Crash Response)) :
    timesOver [.ended number outcome] other = if number = other then 1 else 0 := by
  have hone : timesOver [.ended number outcome] other = [number].count other := by
    rcases outcome with _ | _ | _
    · exact Nat.zero_add _
    · exact Nat.zero_add _
    · rfl
  rw [hone, List.count_singleton]
  simp

/-- Taking one number off those under way takes it off for good and leaves the others. -/
theorem count_filter_ne {l : List (Nat × Request)} (number other : Nat) :
    ((l.filter fun r => r.1 != number).map Prod.fst).count other =
      if number = other then 0 else (l.map Prod.fst).count other := by
  have hfilter : (l.filter fun r => r.1 != number).map Prod.fst =
      (l.map Prod.fst).filter (· != number) := by
    rw [List.filter_map]
    rfl
  rw [hfilter]
  split
  · next heq =>
    subst heq
    exact List.count_eq_zero_of_not_mem (by simp)
  · next hne =>
    exact List.count_filter (by simpa using Ne.symm hne)

/-- One number more is in use when a request has arrived. -/
theorem numbered_succ (arrivals number : Nat) :
    (if number < arrivals then 1 else 0) + [arrivals].count number =
      if number < arrivals + 1 then 1 else 0 := by
  simp only [List.count_singleton, beq_iff_eq]
  split_ifs <;> omega

/-- One that arrives gets its first fate; one that ends exchanges being under way for another. -/
theorem fate_moves (hholds : Holds setup history x) (hmoves : Moves x event x' more)
    {number : Nat}
    (h : timesOver history number + (x.app.admitted.map Prod.fst).count number =
      if number < x.arrivals then 1 else 0) :
    timesOver (history ++ more) number + (x'.app.admitted.map Prod.fst).count number =
      if number < x'.arrivals then 1 else 0 := by
  have hnext := numbered_succ x.arrivals number
  rw [timesOver_append]
  -- for each event: whose fate its effects tell, and who is under way after it
  cases hmoves with
  | @crash request crash cause =>
    have hover : timesOver [.arrived x.arrivals request (.crashed crash)] number =
        [x.arrivals].count number := Nat.zero_add _
    dsimp only
    omega
  | @reject request bound response service =>
    have hover : timesOver [.arrived x.arrivals request (.rejected response),
        .notice (.scrapeRejected x.app.places.inFlight)] number = [x.arrivals].count number := rfl
    dsimp only
    omega
  | @take request =>
    have hover : timesOver [.arrived x.arrivals request .admitted] number = 0 := rfl
    dsimp only
    rw [List.map_append, List.count_append, hover]
    show _ + (_ + [x.arrivals].count number) = _
    omega
  | @enter request =>
    have hover : timesOver [.arrived x.arrivals request .admitted] number = 0 := rfl
    dsimp only
    rw [List.map_append, List.count_append, hover]
    show _ + (_ + [x.arrivals].count number) = _
    omega
  | @leave _ gone request ending inside outcome service =>
    have hmem : gone ∈ x.app.admitted.map Prod.fst :=
      List.mem_map.mpr ⟨_, Association.mem_of_lookup_eq_some inside, rfl⟩
    have hin : (x.app.admitted.map Prod.fst).count gone = 1 :=
      List.count_eq_one_of_mem hholds.distinct hmem
    rw [Application.abandon_of_lookup inside]
    dsimp only
    rw [timesOver_ended, count_filter_ne]
    split
    · next heq =>
      subst heq
      omega
    · omega
  | stay => exact h
  | collect event service effects =>
    have hover : timesOver (effects.map .collector) number = 0 := by
      unfold timesOver statuses unanswered
      rw [filterMap_collector _ (fun _ => rfl), filterMap_collector _ (fun _ => rfl)]
      rfl
    dsimp only
    omega

theorem Accounted.lookup_of_mem (h : Accounted setup before history x) {r : Nat × Request}
    (hr : r ∈ requests history) : (requests history).lookup r.1 = some r.2 := by
  refine Association.lookup_eq_some_of_mem ?_ hr
  show ((requests history).map Prod.fst).Nodup
  rw [h.numbers]
  exact List.nodup_range

/-- What has arrived before keeps its number. -/
theorem Accounted.lookup_append (h : Accounted setup before history x) {number : Nat}
    (hlt : number < x.arrivals) (more : List Effect) :
    (requests (history ++ more)).lookup number = (requests history).lookup number := by
  have hmem : number ∈ (requests history).map Prod.fst := by
    rw [h.numbers]
    exact List.mem_range.mpr hlt
  obtain ⟨r, hr, rfl⟩ := List.mem_map.mp hmem
  rw [requests_append, List.lookup_append, h.lookup_of_mem hr]
  rfl

/-- Only numbers that have been given have responses. -/
theorem Accounted.status_lt (h : Accounted setup before history x) {r : Nat × Nat}
    (hr : r ∈ statuses history) : r.1 < x.arrivals := by
  -- it has had one response, which is all that the fate of its number allows for
  have hpos : 0 < ((statuses history).map Prod.fst).count r.1 :=
    List.count_pos_iff.mpr (List.mem_map_of_mem hr)
  have hfate := h.fate r.1
  unfold timesOver at hfate
  by_contra hge
  rw [if_neg hge] at hfate
  omega

/-- What ends is what was let in under that number. -/
theorem Event.request?_of_ends {number : Nat} (h : event.ends? = some number) :
    event.request? x = x.app.admitted.lookup number := by
  cases event with
  | arrive request => cases h
  | finish n =>
    cases h
    rfl
  | abandon n =>
    cases h
    rfl
  | collect e => cases h

theorem number_of_mem_ended {number : Nat} {outcome : Option (Except Crash Response)}
    {r : Nat × Nat} (hr : r ∈ statuses [.ended number outcome]) : r.1 = number := by
  rcases outcome with _ | _ | response
  · cases hr
  · cases hr
  · rw [List.mem_singleton.mp hr]

/-- A response that comes now is one to the request that the event is about. -/
theorem Accounted.lookup_now (h : Accounted setup before history x)
    (hholds : Holds setup history x) (hmoves : Moves x event x' more) {r : Nat × Nat}
    (hr : r ∈ statuses more) : (requests (history ++ more)).lookup r.1 = event.request? x := by
  cases hmoves with
  | crash => cases hr
  | @reject request bound response =>
    -- its number is new, so it is found where it stands now and not before
    have hnew : (requests history).lookup x.arrivals = none := by
      refine Association.lookup_eq_none_iff_not_mem.mpr ?_
      show x.arrivals ∉ (requests history).map Prod.fst
      rw [h.numbers]
      exact List.not_mem_range_self
    rw [List.mem_singleton.mp hr, requests_append, List.lookup_append, hnew]
    show List.lookup x.arrivals [(x.arrivals, request)] = some request
    exact List.lookup_cons_self
  | take => cases hr
  | enter => cases hr
  | @leave _ number request ending inside outcome service =>
    have hadmitted := Association.mem_of_lookup_eq_some inside
    have hlt := hholds.admitted_lt number (List.mem_map_of_mem hadmitted)
    rw [hholds.pending] at hadmitted
    -- it arrived earlier and is still found; that it is the same request is what `pending` says
    rw [number_of_mem_ended hr, h.lookup_append hlt, Event.request?_of_ends ending, inside]
    exact h.lookup_of_mem (mem_requests_of_mem_pending history hadmitted)
  | stay => cases hr
  | collect event service effects =>
    unfold statuses at hr
    rw [filterMap_collector _ (fun _ => rfl)] at hr
    cases hr

/-- The statuses of scrapes become more by those that come now. -/
theorem Accounted.scrapeStatuses_append (h : Accounted setup before history x)
    (hholds : Holds setup history x) (hmoves : Moves x event x' more) :
    scrapeStatuses setup (history ++ more) = scrapeStatuses setup history ++
      (statuses more).filter fun _ => (event.request? x).any (Application.isScrape setup) := by
  unfold scrapeStatuses
  rw [statuses_append, List.filter_append]
  congr 1
  -- what was answered before belongs to whom it belonged to
  · refine List.filter_congr fun r hr => ?_
    rw [h.lookup_append (h.status_lt hr)]
  · refine List.filter_congr fun r hr => ?_
    rw [h.lookup_now hholds hmoves hr]

/-- **The step.** Both sides grow by the response of this event, if it has one and it is one to a
    scrape. -/
theorem Accounted.count_step (h : Accounted setup before history x)
    (hholds : Holds setup history x) (label : String) :
    countOf (x.step event).1.service.instruments.scrapes label = countOf before label +
      (scrapeStatuses setup (history ++ (x.step event).2)).countP fun r =>
        toString r.2 = label := by
  rw [h.scrapeStatuses_append hholds (moves_step x event), List.countP_append, ← Nat.add_assoc,
    ← h.count label]
  cases tallies_step x event with
  | silent mute same =>
    rw [mute, same]
    rfl
  | @answer request number status about one counted =>
    rw [counted, one, about, hholds.setup_eq, Option.any_some]
    cases hscrape : Application.isScrape setup request with
    | false => rfl
    | true =>
      -- one response to a scrape: one more under its status and none under the others
      have hkept : [(number, status)].filter (fun _ => true) = [(number, status)] := rfl
      rw [if_pos rfl, hkept, List.countP_singleton]
      by_cases hlabel : toString status = label
      · subst hlabel
        rw [countOf_bump_self, decide_eq_true rfl]
        rfl
      · rw [countOf_bump_of_ne _ (Ne.symm hlabel), decide_eq_false hlabel]
        rfl

theorem Accounted.step (h : Accounted setup before history x) (hholds : Holds setup history x)
    (event : Event) :
    Accounted setup before (history ++ (x.step event).2) (x.step event).1 where
  numbers := numbers_moves (moves_step x event) h.numbers
  fate := fun number => fate_moves hholds (moves_step x event) (h.fate number)
  count := h.count_step hholds

theorem accounted_run (setup : Setup) (service : Service) (events : List Event) :
    Accounted setup service.instruments.scrapes ((Exchange.new setup service).run events).2
      ((Exchange.new setup service).run events).1 := by
  induction events using List.reverseRecOn with
  | nil => exact accounted_new setup service
  | append_singleton events event ih =>
    rw [run_snoc]
    exact ih.step (holds_run setup service events) event

/-! ## Runs -/

theorem Moves.rejected (h : Moves x event x' more) {number : Nat} {request : Request}
    {response : Response} (hmem : .arrived number request (.rejected response) ∈ more) :
    response.status = 503 ∧ x.app.setup.limits request = true := by
  cases h with
  | reject response service limits ofBound reached status =>
    rcases List.mem_cons.mp hmem with heq | hnotice
    · cases heq
      exact ⟨status, limits⟩
    · cases List.mem_singleton.mp hnotice
  | collect event service effects =>
    obtain ⟨effect, -, heq⟩ := List.mem_map.mp hmem
    cases heq
  | crash => simp at hmem
  | take => simp at hmem
  | enter => simp at hmem
  | leave => simp at hmem
  | stay => simp at hmem

theorem rejected_run (setup : Setup) (service : Service) (events : List Event) {number : Nat}
    {request : Request} {response : Response}
    (hmem : .arrived number request (.rejected response) ∈
      ((Exchange.new setup service).run events).2) :
    response.status = 503 ∧ Application.isScrape setup request = true := by
  induction events using List.reverseRecOn with
  | nil => cases hmem
  | append_singleton events event ih =>
    rw [run_snoc] at hmem
    rcases List.mem_append.mp hmem with hbefore | hnow
    · exact ih hbefore
    · obtain ⟨hstatus, hlimits⟩ := (moves_step _ event).rejected hnow
      rw [(holds_run setup service events).setup_eq] at hlimits
      exact ⟨hstatus, (Application.of_limits hlimits).2⟩

/-- **Every response to a scrape is counted once.** Whatever has come and gone in whatever order,
    and whatever has been published: under each status the count of scrapes has grown by the
    number of responses to scrapes with that status, 503 for those turned away. Each request has
    a number of its own, and to each just one thing has happened: it has had its one response,
    it has crashed or been broken off and had none, or it is under way. One that ends now gets
    what is made of the state published now, and if that is no response, nothing is counted. -/
theorem answered_scrapes_counted (setup : Setup) (service : Service) (events : List Event) :
    let x := ((Exchange.new setup service).run events).1
    let history := ((Exchange.new setup service).run events).2
    (∀ label, countOf x.service.instruments.scrapes label =
      countOf service.instruments.scrapes label +
        (scrapeStatuses setup history).countP fun r => toString r.2 = label) ∧
    (∀ number request response, .arrived number request (.rejected response) ∈ history →
      response.status = 503 ∧ Application.isScrape setup request = true) ∧
    (requests history).map Prod.fst = List.range x.arrivals ∧
    (∀ number, ((statuses history).map Prod.fst).count number +
      (unanswered history).count number + (x.app.admitted.map Prod.fst).count number =
        if number < x.arrivals then 1 else 0) ∧
    ∀ number request, x.app.admitted.lookup number = some request →
      (x.step (.finish number)).2 =
        [.ended number (some (respond setup x.service request))] := by
  intro x history
  have h := accounted_run setup service events
  refine ⟨h.count, fun number request response => rejected_run setup service events, h.numbers,
    h.fate, ?_⟩
  intro number request hlookup
  obtain ⟨service', hfinish⟩ := Application.finish_of_lookup x.service hlookup
  have hsetup : x.app.setup = setup := (holds_run setup service events).setup_eq
  simp only [step, hfinish, hsetup]

/-! ## A scrape that is not counted -/

/-- A collector whose only cycle has read a text. -/
def afterReading (text : String) : Service :=
  Service.after "proc/net/nf_conntrack" ⟨15, 5⟩
    [.call 0, .finish 0 (.ok text), .conclude 0 0 0]

theorem accounts_afterReading {text : String} {snapshot : Snapshot}
    (h : Snapshot.ofText text = .ok snapshot) :
    (afterReading text).accounts = Accounts.afterCycles [text] := by
  have hholder : (Service.after "proc/net/nf_conntrack" ⟨15, 5⟩
      [.call 0, .finish 0 (.ok text)]).turns.holder? 0 =
        some ⟨⟨0, .client 0⟩, some 0, some (.ok text)⟩ := rfl
  have hpublished := (Service.step_conclude_publishes hholder h 0 0).2
  have hcycle : Accounts.afterCycles [text] = Accounts.empty.record snapshot := by
    show Accounts.cycle Accounts.empty text = _
    rw [Accounts.cycle, h]
  rw [hcycle]
  exact hpublished

theorem respond_scrape {service : Service}
    (h : Exposition.text? (service.families false) = none) :
    respond oneAtATime service scrape = .error .valueTooLarge := by
  have hroute : oneAtATime.route? "/metrics" = .ok (some .metrics) := by
    decide +kernel
  have htext : Exposition.text? (service.families oneAtATime.withInstruments) = none := h
  have hanswer : answer oneAtATime service .metrics = .error .valueTooLarge := by
    simp only [answer, htext]
  unfold respond
  show (oneAtATime.route? "/metrics" >>= _) = _
  rw [hroute]
  show (answer oneAtATime service .metrics >>= _) = _
  rw [hanswer]
  rfl

theorem finish_of_crash {app : Application} {service : Service} {number : Nat}
    {request : Request} {crash : Crash} (hlookup : app.admitted.lookup number = some request)
    (hcrash : respond app.setup service request = .error crash) :
    app.finish service number = (app.abandon number, service, some (.error crash)) := by
  unfold Application.finish Application.abandon
  rw [hlookup]
  dsimp only
  rw [hcrash]
  split
  · rfl
  · rfl

/-- A scrape whose response cannot be made leaves the collector as it was. -/
theorem run_of_crash {service : Service} {crash : Crash}
    (h : respond oneAtATime service scrape = .error crash) :
    ∃ app, (Exchange.new oneAtATime service).run [.arrive scrape, .finish 0] =
      (⟨app, service, 1⟩, [.arrived 0 scrape .admitted, .ended 0 (some (.error crash))]) := by
  have hlimits : oneAtATime.limits scrape = true := by decide +kernel
  have hbound : (Application.new oneAtATime).places.bound = .ok (.atLeast 1) := rfl
  have harrive := step_arrive (Exchange.new oneAtATime service)
    (Application.arrive_of_free service 0 hbound hlimits rfl)
  unfold run
  rw [List.foldl_cons, List.foldl_cons, List.foldl_nil]
  dsimp only
  rw [harrive]
  unfold step
  dsimp only
  have hlookup : [(0, scrape)].lookup 0 = some scrape := rfl
  rw [finish_of_crash hlookup h]
  exact ⟨_, rfl⟩

theorem respond_afterReading_manyPackets :
    respond oneAtATime (afterReading (String.ofList (Survey.manyPackets 309))) scrape =
      .error .valueTooLarge := by
  have hreadable := (Survey.readable_manyPackets_iff 309).mpr (by omega)
  obtain ⟨flow, hflow, hbeyond⟩ := Accounts.manyPackets_beyond
  have hsnapshot := Survey.snapshot_of_readable hreadable
  rw [if_neg (List.ne_nil_of_mem hflow)] at hsnapshot
  refine respond_scrape ?_
  rw [Service.families, if_neg Bool.false_ne_true, List.append_nil,
    accounts_afterReading hsnapshot]
  exact Accounts.scrape?_eq_none_of_flow List.mem_cons_self hreadable hflow hbeyond

/-- A scrape that ends when the totals cannot be shown has no response that the application made;
    its client is told of an error by the server outside, and no status counts it. -/
theorem unanswered_scrape_uncounted :
    let service := afterReading (String.ofList (Survey.manyPackets 309))
    let x := ((Exchange.new oneAtATime service).run [.arrive scrape, .finish 0]).1
    let history := ((Exchange.new oneAtATime service).run [.arrive scrape, .finish 0]).2
    Application.isScrape oneAtATime scrape = true ∧
      history = [.arrived 0 scrape .admitted, .ended 0 (some (.error .valueTooLarge))] ∧
      ∀ label, countOf x.service.instruments.scrapes label =
        countOf service.instruments.scrapes label := by
  have hrespond := respond_afterReading_manyPackets
  generalize afterReading (String.ofList (Survey.manyPackets 309)) = service at hrespond ⊢
  obtain ⟨app, hrun⟩ := run_of_crash hrespond
  dsimp only
  rw [hrun]
  exact ⟨by decide +kernel, rfl, fun _ => rfl⟩

end Exchange

end Flowmeter.Web
