import Flowmeter.Proofs.Web.Exchange

/-!
# The places of scrapes

Scrapes come and go in any order, and some of them fail or are broken off. The number of places
taken is always the number of scrapes under way, so a scrape is turned away exactly when there are
as many as are allowed, and no place is lost.

The places are the counter of the limit, and it is written where a scrape comes in and where it
goes. The scrapes under way are read off the history. That the two are equal is part of `Holds`,
which does not ask what the limit is. What is added here is what follows where it is a whole number:
that the counter never passes it, and so that "at least as many as allowed", which is what the limit
asks, is "as many as allowed".

The bound is proved by induction over the run, from the change that each event makes
(`Holds.inFlight_moves`, `change_le`), and not put into the invariant: a limit that is no number has
no such bound, and the agreement holds for it too.
-/

set_option autoImplicit false

namespace Flowmeter.Web

open Flowmeter.Collector Flowmeter.Config

/-- A limit of nought, which stands for none, is never reached. -/
theorem Bound.isReached_ofInt (limit : Nat) (inFlight : Int) :
    (Bound.ofInt limit).isReached inFlight = true ↔ 0 < limit ∧ (limit : Int) ≤ inFlight := by
  unfold Bound.ofInt
  by_cases hlimit : limit = 0
  · subst hlimit
    simp [Bound.isReached]
  · have hpos : 0 < limit := Nat.pos_of_ne_zero hlimit
    rw [if_neg (by exact_mod_cast hlimit)]
    simp [Bound.isReached, hpos]

namespace Exchange

open Exchange.History

/-! ## What an event is said to change

`change` is written from the scrapes under way and the event alone. It names no part of the
application, so that "the places change by `change`" says something. -/

def Effect.arrival? : Effect → Option Application.Arrival
  | .arrived _ _ arrival => some arrival
  | _ => none

/-- This becomes of a request that arrives now. -/
def Meets (x : Exchange) (request : Request) (arrival : Application.Arrival) : Prop :=
  (x.step (.arrive request)).2.filterMap Effect.arrival? = [arrival]

/-- By how many the scrapes under way become more: one that arrives is let in unless there are as
    many as are allowed, and one that ends is one less, whatever comes of it. -/
def change (setup : Setup) (limit : Nat) (underway : List (Nat × Request)) : Event → Int
  | .arrive request =>
      if setup.limits request = true ∧ ¬ (0 < limit ∧ underway.length = limit) then 1 else 0
  | .finish number | .abandon number => if number ∈ underway.map Prod.fst then -1 else 0
  | .collect _ => 0

variable {setup : Setup} {history : List Effect} {x : Exchange} {limit : Nat} {event : Event}

theorem change_arrive (request : Request) (underway : List (Nat × Request)) :
    change setup limit underway (.arrive request) =
      if setup.limits request = true ∧ ¬ (0 < limit ∧ underway.length = limit) then 1 else 0 :=
  rfl

/-- Ends and requests broken off change the same: the place is given back where the response
    fails, and where nobody waits for it any more. -/
theorem change_of_ends {number : Nat} (h : event.ends? = some number)
    (underway : List (Nat × Request)) : change setup limit underway event =
      if number ∈ underway.map Prod.fst then -1 else 0 := by
  cases event with
  | arrive request => cases h
  | finish n =>
    cases h
    rfl
  | abandon n =>
    cases h
    rfl
  | collect e => cases h

theorem change_le (setup : Setup) (limit : Nat) (event : Event)
    (underway : List (Nat × Request)) :
    change setup limit underway event ≤
      if 0 < limit ∧ underway.length = limit then 0 else 1 := by
  cases event with
  -- nothing comes in where as many are under way as are allowed, which both sides ask
  | arrive request =>
    rw [change_arrive]
    split <;> split <;> simp_all
  | finish number =>
    rw [change_of_ends rfl]
    split <;> split <;> decide
  | abandon number =>
    rw [change_of_ends rfl]
    split <;> split <;> decide
  | collect event =>
    show (0 : Int) ≤ _
    split <;> decide

/-! ## What the application does to the places

Everything from here on is for a limit that is a whole number. Then the limit is read without fault,
and a scrape crashes on its way in for no reason that has to do with places. -/

theorem Holds.bound_of_limit (h : Holds setup history x)
    (hlimit : setup.limit = .scalar (.int limit)) :
    x.app.places.bound = .ok (Bound.ofInt limit) := by
  rw [h.bound, hlimit]
  rfl

/-- With a limit that is a number, no scrape fails to be compared with it. -/
theorem Holds.not_limits_of_crash (h : Holds setup history x)
    (hlimit : setup.limit = .scalar (.int limit)) {request : Request}
    (hcause : x.app.setup.limits request = false ∨ ∃ m, x.app.places.bound = .error m) :
    ¬ setup.limits request = true := by
  rcases hcause with hother | ⟨m, herror⟩
  · rw [h.setup_eq] at hother
    rw [hother]
    exact Bool.false_ne_true
  · rw [h.bound_of_limit hlimit] at herror
    cases herror

/-- The numbers under way are those of the scrapes that the application has let in. -/
theorem Holds.mem_scrapes_iff (h : Holds setup history x) {number : Nat} :
    number ∈ (scrapes setup history).map Prod.fst ↔
      ∃ request, x.app.admitted.lookup number = some request ∧
        Application.isScrape setup request = true := by
  unfold scrapes
  rw [← h.pending]
  constructor
  · intro hmem
    obtain ⟨⟨n, request⟩, hin, rfl⟩ := List.mem_map.mp hmem
    obtain ⟨hin, hscrape⟩ := List.mem_filter.mp hin
    exact ⟨request, Association.lookup_eq_some_of_mem h.distinct hin, hscrape⟩
  · rintro ⟨request, hlookup, hscrape⟩
    have hin := Association.mem_of_lookup_eq_some hlookup
    exact List.mem_map.mpr ⟨(number, request), List.mem_filter.mpr ⟨hin, hscrape⟩, rfl⟩

/-- A place is given back just if the request that goes had one. A number that is not under way
    has none to give back. -/
theorem Holds.inFlight_abandon (h : Holds setup history x) {number : Nat} {request : Request}
    (hlookup : x.app.admitted.lookup number = some request) :
    (x.app.abandon number).places.inFlight = x.app.places.inFlight +
      if number ∈ (scrapes setup history).map Prod.fst then -1 else 0 := by
  rw [Application.abandon_of_lookup hlookup, h.setup_eq]
  cases hscrape : Application.isScrape setup request with
  | true =>
    rw [if_pos (h.mem_scrapes_iff.mpr ⟨request, hlookup, hscrape⟩)]
    rfl
  | false =>
    have hnot : number ∉ (scrapes setup history).map Prod.fst := by
      intro hmem
      -- what is found under a number is one request, so it would be a scrape
      obtain ⟨other, hother, hyes⟩ := h.mem_scrapes_iff.mp hmem
      rw [hlookup, Option.some.injEq] at hother
      rw [hother, hyes] at hscrape
      cases hscrape
    rw [if_neg hnot]
    exact (Int.add_zero _).symm

/-- A scrape is turned away exactly when as many as are allowed are under way. -/
theorem Holds.reached_iff_full (h : Holds setup history x)
    (hlimit : setup.limit = .scalar (.int limit))
    (hle : 0 < limit → (scrapes setup history).length ≤ limit) {bound : Bound}
    (hbound : x.app.places.bound = .ok bound) :
    bound.isReached x.app.places.inFlight = true ↔
      0 < limit ∧ (scrapes setup history).length = limit := by
  -- reached means no fewer than allowed; that there are no more is `hle`
  rw [h.bound_of_limit hlimit, Except.ok.injEq] at hbound
  rw [← hbound, Bound.isReached_ofInt, h.inFlight, Int.ofNat_le]
  constructor
  · rintro ⟨hpos, hge⟩
    exact ⟨hpos, Nat.le_antisymm (hle hpos) hge⟩
  · rintro ⟨hpos, heq⟩
    exact ⟨hpos, Nat.le_of_eq heq.symm⟩

/-- **The step.** Each event changes the places by what it is said to. -/
theorem Holds.inFlight_moves {x' : Exchange} {more : List Effect} (h : Holds setup history x)
    (hlimit : setup.limit = .scalar (.int limit))
    (hle : 0 < limit → (scrapes setup history).length ≤ limit) (hmoves : Moves x event x' more) :
    x'.app.places.inFlight =
      x.app.places.inFlight + change setup limit (scrapes setup history) event := by
  cases hmoves with
  | @crash request _ cause =>
    have hlimits := h.not_limits_of_crash hlimit cause
    rw [change_arrive, if_neg (fun hand => hlimits hand.1)]
    exact (Int.add_zero _).symm
  | reject response service limits ofBound reached status =>
    have hfull := (h.reached_iff_full hlimit hle ofBound).mp reached
    rw [change_arrive, if_neg (fun hand => hand.2 hfull)]
    exact (Int.add_zero _).symm
  | take limits ofBound free =>
    rw [h.setup_eq] at limits
    have hnot : ¬ (0 < limit ∧ (scrapes setup history).length = limit) := by
      rw [← h.reached_iff_full hlimit hle ofBound, free]
      exact Bool.false_ne_true
    rw [change_arrive, if_pos ⟨limits, hnot⟩]
  | enter limits other =>
    rw [h.setup_eq] at limits
    rw [change_arrive, if_neg (fun hand => Bool.false_ne_true (limits.symm.trans hand.1))]
    exact (Int.add_zero _).symm
  | leave ending inside outcome service =>
    rw [change_of_ends ending]
    exact h.inFlight_abandon inside
  | @stay _ number ending outside =>
    have hnot : number ∉ (scrapes setup history).map Prod.fst := by
      intro hmem
      obtain ⟨request, hlookup, -⟩ := h.mem_scrapes_iff.mp hmem
      rw [outside] at hlookup
      cases hlookup
    rw [change_of_ends ending, if_neg hnot]
    exact (Int.add_zero _).symm
  | collect event service effects => exact (Int.add_zero _).symm

/-! ## Runs

The bound is needed to tell what the next event does, and the next event to keep the bound. So it
is carried through the run by itself, with the agreement of places and scrapes at hand. -/

theorem length_scrapes_le (hlimit : setup.limit = .scalar (.int limit)) (service : Service)
    (events : List Event) (hpos : 0 < limit) :
    (scrapes setup ((Exchange.new setup service).run events).2).length ≤ limit := by
  induction events using List.reverseRecOn with
  | nil => exact Nat.zero_le _
  | append_singleton events event ih =>
    have h := holds_run setup service events
    have hmoves := moves_step ((Exchange.new setup service).run events).1 event
    have hchange := h.inFlight_moves hlimit (fun _ => ih) hmoves
    have hmost := change_le setup limit event
      (scrapes setup ((Exchange.new setup service).run events).2)
    rw [h.inFlight, (h.moves hmoves).inFlight] at hchange
    rw [run_snoc]
    dsimp only
    -- One more comes in only where there were fewer than are allowed.
    split at hmost <;> omega

/-- A request is turned away only where the bound is reached. -/
theorem Moves.reached {x' : Exchange} {more : List Effect} (h : Moves x event x' more)
    {number : Nat} {request : Request} {response : Response}
    (hmem : .arrived number request (.rejected response) ∈ more) :
    ∃ bound, x.app.places.bound = .ok bound ∧ bound.isReached x.app.places.inFlight = true := by
  -- a request is turned away by one move only, and the effects of a collector are no arrivals
  cases h with
  | reject _ _ _ ofBound reached _ => exact ⟨_, ofBound, reached⟩
  | collect event service effects =>
    obtain ⟨effect, -, heq⟩ := List.mem_map.mp hmem
    cases heq
  | crash => simp at hmem
  | take => simp at hmem
  | enter => simp at hmem
  | leave => simp at hmem
  | stay => simp at hmem

theorem not_rejected_of_unlimited (hlimit : setup.limit = .scalar (.int (0 : Nat)))
    (service : Service) (events : List Event) (number : Nat) (request : Request)
    (response : Response) : .arrived number request (.rejected response) ∉
      ((Exchange.new setup service).run events).2 := by
  induction events using List.reverseRecOn with
  | nil => exact List.not_mem_nil
  | append_singleton events event ih =>
    intro hmem
    rw [run_snoc] at hmem
    rcases List.mem_append.mp hmem with hbefore | hnow
    · exact ih hbefore
    · have h := holds_run setup service events
      obtain ⟨bound, hbound, hreached⟩ := (moves_step _ event).reached hnow
      rw [h.reached_iff_full hlimit (fun hpos => absurd hpos (Nat.lt_irrefl 0)) hbound] at hreached
      exact Nat.lt_irrefl 0 hreached.1

/-- A scrape is let in unless as many as are allowed are under way, and then it is turned away.
    Nothing else ever is. -/
theorem Holds.meets (h : Holds setup history x)
    (hlimit : setup.limit = .scalar (.int limit))
    (hle : 0 < limit → (scrapes setup history).length ≤ limit) (request : Request) :
    if setup.limits request = true ∧ 0 < limit ∧ (scrapes setup history).length = limit then
      ∃ response, response.status = 503 ∧ x.Meets request (.rejected response)
    else
      (setup.limits request = true → x.Meets request .admitted) ∧
        ∀ response, ¬ x.Meets request (.rejected response) := by
  have hmoves := moves_step x (.arrive request)
  unfold Meets
  -- only the move matters from here on, not how the step is worked out
  generalize (x.step (.arrive request)).1 = x', (x.step (.arrive request)).2 = more at hmoves ⊢
  cases hmoves with
  | crash crash cause =>
    have hlimits : ¬ setup.limits request = true := h.not_limits_of_crash hlimit cause
    rw [if_neg (fun hand => hlimits hand.1)]
    refine ⟨fun hyes => absurd hyes hlimits, ?_⟩
    intro response heq
    cases heq
  | reject response service limits ofBound reached status =>
    rw [h.setup_eq] at limits
    rw [if_pos ⟨limits, (h.reached_iff_full hlimit hle ofBound).mp reached⟩]
    exact ⟨response, status, rfl⟩
  | take limits ofBound free =>
    rw [if_neg]
    case hnc =>
      rintro ⟨-, hfull⟩
      rw [← h.reached_iff_full hlimit hle ofBound, free] at hfull
      cases hfull
    refine ⟨fun _ => rfl, ?_⟩
    intro response heq
    cases heq
  | enter limits other =>
    rw [h.setup_eq] at limits
    rw [if_neg (fun hand => Bool.false_ne_true (limits.symm.trans hand.1))]
    refine ⟨fun _ => rfl, ?_⟩
    intro response heq
    cases heq
  | leave ending => cases ending
  | stay ending => cases ending

/-- **As many scrapes are let in as are allowed, and no place is lost.** Whatever has come and gone
    in whatever order, and however it ended, the places taken are the scrapes under way. These are
    never more than the limit; a scrape that arrives is turned away exactly when they are as many,
    and with a limit of nought none is. What is turned away, what is no scrape and what the
    collector does take no place and give none back. -/
theorem places_are_scrapes_underway (setup : Setup) (service : Service) (limit : Nat)
    (hlimit : setup.limit = .scalar (.int limit)) (events : List Event) :
    let x := ((Exchange.new setup service).run events).1
    let history := ((Exchange.new setup service).run events).2
    let underway := scrapes setup history
    x.app.places.inFlight = underway.length ∧
    ((∀ r ∈ history.filterMap Effect.admitted?, Application.isScrape setup r.2 = true →
      r.1 ∈ ends history) → x.app.places.inFlight = 0) ∧
    (0 < limit → underway.length ≤ limit) ∧
    (limit = 0 → ∀ number request response,
      Effect.arrived number request (.rejected response) ∉ history) ∧
    (∀ request,
      if setup.limits request = true ∧ 0 < limit ∧ underway.length = limit then
        ∃ response, response.status = 503 ∧ x.Meets request (.rejected response)
      else
        (setup.limits request = true → x.Meets request .admitted) ∧
          ∀ response, ¬ x.Meets request (.rejected response)) ∧
    ∀ event, (x.step event).1.app.places.inFlight =
      x.app.places.inFlight + change setup limit underway event := by
  intro x history underway
  have h : Holds setup history x := holds_run setup service events
  have hle : 0 < limit → underway.length ≤ limit := length_scrapes_le hlimit service events
  refine ⟨h.inFlight, ?finished, hle, ?unlimited, h.meets hlimit hle, ?changes⟩
  case finished =>
    intro hfinished
    -- none is under way if all that were let in have ended, so the places are free again
    have hnone : underway = [] := by
      refine List.filter_eq_nil_iff.mpr fun r hr hscrape => ?_
      obtain ⟨hadmitted, hnot⟩ := List.mem_filter.mp hr
      exact of_decide_eq_true hnot (hfinished r hadmitted hscrape)
    rw [h.inFlight]
    show (underway.length : Int) = 0
    rw [hnone]
    rfl
  case unlimited =>
    rintro rfl
    exact not_rejected_of_unlimited hlimit service events
  case changes =>
    intro event
    exact h.inFlight_moves hlimit hle (moves_step x event)

def oneAtATime : Setup := ⟨"/metrics", .plain "/metrics", .scalar (.int 1), false, true⟩

def scrape : Request := ⟨"GET", ⟨"http", "test", none, "/metrics", none, []⟩⟩

/-- After one that was broken off there is room for the next, and none beside that. -/
theorem places_are_scrapes_underway_brokenOff :
    let x := ((Exchange.new oneAtATime (Service.new "" ⟨15, 5⟩)).run
      [.arrive scrape, .abandon 0, .arrive scrape]).1
    x.app.places.inFlight = 1 ∧
      ∃ response, response.status = 503 ∧ x.Meets scrape (.rejected response) := by
  obtain ⟨hinFlight, -, -, -, harrival, -⟩ := places_are_scrapes_underway oneAtATime
    (Service.new "" ⟨15, 5⟩) 1 rfl [.arrive scrape, .abandon 0, .arrive scrape]
  have hfull := harrival scrape
  rw [if_pos (by decide)] at hfull
  exact ⟨hinFlight, hfull⟩

end Exchange

end Flowmeter.Web
