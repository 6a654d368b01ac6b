import Flowmeter.Collector.Service

/-!
# Responses

A response has a status, a body, and what the body is. Bodies that are documents are kept as
what they say.
-/

set_option autoImplicit false

namespace Flowmeter.Web

/-- What a response carries. -/
inductive Body where
  | empty
  | text (s : String)
  /-- The status of the collector, under a word for its health. -/
  | health (word : String) (status : Collector.Service.Status)
  /-- There is no collector. -/
  | notConfigured
  /-- Why a request was not answered. -/
  | detail (s : String)

/-- A response. -/
structure Response where
  status : Nat
  contentType : Option String
  location : Option String := none
  allow : Option String := none
  body : Body

namespace Response

def document : Option String := some "application/json"

def metrics (text : String) : Response where
  status := 200
  contentType := some "text/plain; version=1.0.0; charset=utf-8"
  body := .text text

def page (text : String) : Response where
  status := 200
  contentType := some "text/html; charset=utf-8"
  body := .text text

/-- A scrape that was turned away. -/
def tooMany : Response where
  status := 503
  contentType := some "text/plain; charset=utf-8"
  body := .text "Limit of concurrent requests reached, try again later.\n"

/-- The health of a collector: degraded unless it runs and has succeeded. -/
def health (status : Collector.Service.Status) : Response :=
  let healthy := status.running && status.lastSuccess.isSome
  { status := if healthy then 200 else 503
    contentType := document
    body := .health (if healthy then "ok" else "degraded") status }

/-- The health of no collector. -/
def notConfigured : Response where
  status := 503
  contentType := document
  body := .notConfigured

def notFound : Response where
  status := 404
  contentType := document
  body := .detail "Not Found"

/-- A path that is only read. -/
def methodNotAllowed : Response where
  status := 405
  contentType := document
  allow := some "GET"
  body := .detail "Method Not Allowed"

/-- A path that stands elsewhere. -/
def redirect (location : String) : Response where
  status := 307
  contentType := none
  location := some location
  body := .empty

/-- The response to a method that asks for no body. -/
def withoutBody (r : Response) : Response :=
  { r with body := .empty }

end Response

end Flowmeter.Web
