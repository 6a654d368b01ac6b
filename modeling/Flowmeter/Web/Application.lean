import Flowmeter.Web.PathTemplate
import Flowmeter.Web.Response
import Flowmeter.Web.ScrapeLimit
import Flowmeter.Web.Target

/-!
# The web application

Three paths are served: the telemetry path, which is configured, the health of the collector,
and a page that links to the telemetry path. The first route that a path matches answers it,
so a telemetry path may hide another one. The telemetry path is a template, and may stand for
many paths.

Only requests to the telemetry path as it is written are limited and counted. One takes its
place when it arrives and gives it back when it ends; it is counted by its status after its
response has been made, so the series it is shown do not include itself. A request whose
response cannot be made gives its place back and is not counted. One from which the server
cannot tell its own address is not taken at all.
-/

set_option autoImplicit false

namespace Flowmeter.Web

open Flowmeter.Config Flowmeter.Collector

/-- How the application is set up. -/
structure Setup where
  telemetryPath : String
  telemetryTemplate : PathTemplate
  /-- How many scrapes are answered at a time. -/
  limit : Value
  withInstruments : Bool
  hasCollector : Bool

/-- A path with a slash in front. -/
def withSlash (path : String) : String :=
  if path.startsWith "/" then path else "/" ++ path

/-- The telemetry path that a setting names: with a slash in front. -/
def telemetryPathOf : Value → Except Mismatch String
  | .scalar (.text s) => .ok (withSlash s)
  | .scalar (.wide points) => .ok (withSlash (Text.CodePoint.shown points))
  | .scalar (.bytes _) => .error .bytesBeginning
  | v => .error (.noPart v.kind "startswith")

/-! ## Routes -/

/-- What a path can stand for. -/
inductive Route where
  | metrics
  | health
  | landing
deriving DecidableEq, Repr

/-- The routes in the order in which they are tried. -/
def Setup.routes (setup : Setup) : List (PathTemplate × Route) :=
  [(setup.telemetryTemplate, .metrics), (.plain "/health", .health), (.plain "/", .landing)]

/-- The path with its trailing slashes taken off, or with one put on. -/
def toggleSlash (path : String) : String :=
  let cs := path.toList
  if cs.getLast? = some '/' then String.ofList (Text.dropEndWhile (· == '/') cs)
  else path ++ "/"

/-! ## Pages -/

/-- A character of a page that is not part of its markup. -/
def escapeMarkup (c : Char) : String :=
  if c = '&' then "&amp;"
  else if c = '<' then "&lt;"
  else if c = '>' then "&gt;"
  else if c = '\x22' then "&quot;"
  else if c = '\x27' then "&#x27;"
  else String.singleton c

/-- The page that links to the telemetry path. -/
def landingPage (telemetryPath : String) : String :=
  "<html><head><title>Conntrack Exporter</title></head><body><h1>Conntrack Exporter</h1>" ++
    "<p><a href=\"" ++ String.join (telemetryPath.toList.map escapeMarkup) ++
    "\">Metrics</a></p></body></html>"

/-! ## Requests -/

/-- A request. -/
structure Request where
  method : String
  target : Target

/-- Why a response cannot be made. -/
inductive Crash where
  /-- A published value is too large for a double. -/
  | valueTooLarge
  /-- The interval is no number that a document can hold. -/
  | unwritableInterval
  /-- The limit cannot be compared with a number of scrapes. -/
  | badLimit (m : Mismatch)
  /-- An integer in the path has too many digits. -/
  | integerTooLong (digits : Nat)
  /-- The server does not know where it has been reached by a scheme. -/
  | unknownScheme (scheme : String)
deriving DecidableEq, Repr

def Crash.message : Crash → String
  | .valueTooLarge => "int too large to convert to float"
  | .unwritableInterval => "Out of range float values are not JSON compliant"
  | .badLimit m => m.message
  | .integerTooLong digits => Decimal.tooLongMessage digits
  | .unknownScheme scheme => Text.quoted scheme

/-- The first of some routes that a path matches. -/
def routeAmong (path : String) : List (PathTemplate × Route) → Except Crash (Option Route)
  | [] => .ok none
  | (template, route) :: rest =>
      match template.accepts path with
      | .ok true => .ok (some route)
      | .error (.tooLong digits) => .error (.integerTooLong digits)
      | _ => routeAmong path rest

/-- The route of a path. -/
def Setup.route? (setup : Setup) (path : String) : Except Crash (Option Route) :=
  routeAmong path setup.routes

/-- The answer of a route to a request that reads it. -/
def answer (setup : Setup) (service : Service) : Route → Except Crash Response
  | .metrics =>
      match Exposition.text? (service.families setup.withInstruments) with
      | some text => .ok (.metrics text)
      | none => .error .valueTooLarge
  | .health =>
      if setup.hasCollector then
        if service.timing.interval.isFinite then .ok (.health service.status)
        else .error .unwritableInterval
      else .ok .notConfigured
  | .landing => .ok (.page (landingPage setup.telemetryPath))

/-- The response to a request that has been let through. -/
def respond (setup : Setup) (service : Service) (request : Request) :
    Except Crash Response := do
  let target := request.target
  let response ←
    match ← setup.route? target.path with
    | some route =>
        if request.method = "GET" then answer setup service route else pure .methodNotAllowed
    | none =>
        let other := toggleSlash target.path
        -- a path may differ from one that is served by its last slash only, and then leads there
        if target.path = "/" then pure .notFound
        else match ← setup.route? other, target.address? with
          | some _, some address => pure (.redirect (target.locationAt address other))
          | some _, none => throw (.unknownScheme target.scheme)
          | none, _ => pure .notFound
  return if request.method = "HEAD" then response.withoutBody else response

/-! ## The state of the application -/

/-- The places taken, and the requests that have arrived and not ended. -/
structure Application where
  setup : Setup
  places : ScrapeLimit
  admitted : List (Nat × Request)

namespace Application

def new (setup : Setup) : Application where
  setup := setup
  places := ScrapeLimit.new setup.limit
  admitted := []

/-- Whether a request is limited and counted. -/
def isScrape (setup : Setup) (request : Request) : Bool :=
  request.target.comparedPath == setup.telemetryPath

/-- What becomes of a request when it arrives. -/
inductive Arrival where
  | admitted
  | rejected (response : Response)
  | crashed (crash : Crash)

/-- A request arrives. One that is turned away is counted at once. -/
def arrive (app : Application) (service : Service) (id : Nat) (request : Request) :
    Application × Service × Arrival × List Notice :=
  let letIn (app : Application) : Application × Service × Arrival × List Notice :=
    ({ app with admitted := app.admitted ++ [(id, request)] }, service, .admitted, [])
  if request.target.address?.isNone then
    (app, service, .crashed (.unknownScheme request.target.scheme), [])
  else if isScrape app.setup request then
    match app.places.acquire with
    | .error m => (app, service, .crashed (.badLimit m), [])
    | .ok (true, places) => letIn { app with places := places }
    | .ok (false, _) =>
        let response :=
          if request.method = "HEAD" then Response.tooMany.withoutBody else .tooMany
        (app, { service with instruments := service.instruments.countScrape 503 },
          .rejected response, [.scrapeRejected app.places.inFlight])
  else letIn app

/-- An admitted request ends: its response is made, its place given back, and it is
    counted. -/
def finish (app : Application) (service : Service) (id : Nat) :
    Application × Service × Option (Except Crash Response) :=
  match app.admitted.lookup id with
  | none => (app, service, none)
  | some request =>
      let outcome := respond app.setup service request
      let rest := app.admitted.filter (fun r => r.1 != id)
      if isScrape app.setup request then
        let service :=
          match outcome with
          | .ok response =>
              { service with instruments := service.instruments.countScrape response.status }
          -- there is no status to count it under
          | .error _ => service
        ({ app with admitted := rest, places := app.places.release }, service, some outcome)
      else ({ app with admitted := rest }, service, some outcome)

/-- A number of equal requests that all arrive before any of them ends, and what becomes of
    each: those turned away first. -/
def burst (app : Application) (service : Service) (request : Request) (n : Nat) :
    Application × Service × List (Except Crash Response) :=
  let ids := List.range n
  let (app, service, rejected) := ids.foldl
    (fun (app, service, outcomes) id =>
      let (app, service, arrival, _) := app.arrive service id request
      match arrival with
      | .admitted => (app, service, outcomes)
      | .rejected response => (app, service, outcomes ++ [.ok response])
      | .crashed crash => (app, service, outcomes ++ [.error crash]))
    (app, service, ([] : List (Except Crash Response)))
  ids.foldl
    (fun (app, service, outcomes) id =>
      match app.finish service id with
      | (app, service, some outcome) => (app, service, outcomes ++ [outcome])
      | (app, service, none) => (app, service, outcomes))
    (app, service, rejected)

end Application

end Flowmeter.Web
