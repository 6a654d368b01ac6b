import Flowmeter.Web.Application

/-!
# Requests in any order

Requests arrive at any time, and each stays until it ends. While one is under way others arrive
and end, and the collector goes on, so every order in which all this can happen is a list of
events. A request is known by its number, which is how many had arrived before it.

A request that has been let in ends in one of two ways: a response to it is made, or turns out to
be impossible; or it is broken off before that, whatever the cause.
-/

set_option autoImplicit false

namespace Flowmeter.Web

open Flowmeter.Collector

namespace Application

/-- An admitted request is broken off. No response is made and nothing is counted, but its place
    is given back. -/
def abandon (app : Application) (id : Nat) : Application :=
  match app.admitted.lookup id with
  | none => app
  | some request =>
      let rest := app.admitted.filter (fun r => r.1 != id)
      if isScrape app.setup request then
        { app with admitted := rest, places := app.places.release }
      else { app with admitted := rest }

end Application

/-- An application with its collector, and how many requests have arrived. -/
structure Exchange where
  app : Application
  service : Service
  arrivals : Nat

namespace Exchange

/-- What can happen. Requests are named by their numbers; what cannot happen in a state leaves it
    as it is. -/
inductive Event where
  | arrive (request : Request)
  /-- An admitted request is answered, or cannot be. -/
  | finish (number : Nat)
  /-- An admitted request is broken off. -/
  | abandon (number : Nat)
  /-- Something happens to the collector. -/
  | collect (event : Service.Event)

/-- What is seen of it. -/
inductive Effect where
  | arrived (number : Nat) (request : Request) (arrival : Application.Arrival)
  /-- A request has ended, without an outcome if it was broken off. -/
  | ended (number : Nat) (outcome : Option (Except Crash Response))
  | notice (n : Notice)
  | collector (effect : Collector.Effect)

def new (setup : Setup) (service : Service) : Exchange := ⟨Application.new setup, service, 0⟩

def step (x : Exchange) : Event → Exchange × List Effect
  | .arrive request =>
      let (app, service, arrival, notices) := x.app.arrive x.service x.arrivals request
      (⟨app, service, x.arrivals + 1⟩,
        .arrived x.arrivals request arrival :: notices.map .notice)
  | .finish number =>
      match x.app.finish x.service number with
      | (app, service, some outcome) =>
          ({ x with app := app, service := service }, [.ended number (some outcome)])
      | (_, _, none) => (x, [])
  | .abandon number =>
      if (x.app.admitted.lookup number).isSome then
        ({ x with app := x.app.abandon number }, [.ended number none])
      else (x, [])
  | .collect event =>
      let (service, effects) := x.service.step event
      ({ x with service := service }, effects.map .collector)

/-- The exchange after some events, with all effects in order. -/
def run (x : Exchange) (events : List Event) : Exchange × List Effect :=
  events.foldl
    (fun (x, history) event => let (x, effects) := x.step event; (x, history ++ effects)) (x, [])

end Exchange

end Flowmeter.Web
