import Electorate.Log.Sink
import Electorate.Web.Client
import Electorate.Web.Handler
import Electorate.Web.Layer
import Electorate.Web.RateLimit

/-!
# The application

* `Request`: a request.
* `Application`: the settings, the requests of each client, and the conversation with the store.
* `Application.start`: the application for some settings.
* `Application.respond`: counts the request of the client, finds the endpoint and answers.
-/

namespace Electorate.Web

open Electorate.Store (Outcome Session)

/-- A request. -/
structure Request where
  method : String
  path : String
  query : Query
  headers : Headers
  /-- The address at the other end of the connection. -/
  peer : Option String

/-- The state of the application. -/
structure Application where
  settings : Settings
  /-- Whether the store can be asked. -/
  started : Bool
  hits : HitLog
  session : Session

/-- Why the application does not start. -/
inductive StartError where
  | path (e : PathError)
  | logLevel (name : String)
deriving DecidableEq, Repr

namespace Application

/-- The totals that are kept under some settings. -/
def totalsFor (s : Settings) : ResultCache Store.YearCounts :=
  .empty s.cacheMaxEntries.toNat s.cacheTtlSeconds

/-- The application for some settings, with the outcomes of the statements to come. Where the
startup is left out the store cannot be asked. -/
def start (s : Settings) (startup : Bool) (outcomes : List Outcome) :
    Except StartError Application := do
  let _ ← (checkBase s.apiPath).mapError .path
  if startup then
    let _ ← (Log.LogSetup.ofName s.logLevel s.logDir.isSome).mapError .logLevel
  return ⟨s, startup, .empty, ⟨outcomes, [], totalsFor s, 0⟩⟩

/-- The answer of an endpoint as a response, and the session after it. There is no response if the
program is at fault. -/
def respondAt (app : Application) (year : Int) (q : Query) (e : Endpoint) :
    Option Response × Session :=
  if app.started then
    match (do sendable (← answer app.settings year q e)) app.session with
    | (.ok j, session) => (some (.json 200 j), session)
    | (.error refusal, session) => (refusal.response?, session)
  else (none, app.session)

/-- The response to a request that the rate limit lets through, and the session after it. -/
def route (app : Application) (year : Int) (r : Request) : Option Response × Session :=
  match Route.ofPath app.settings.apiPath r.path with
  | .nowhere => (some (detail 404 "Not Found"), app.session)
  | .elsewhere => (some (.plain 307 (.text "")), app.session)
  | .endpoint e =>
    if r.method = "GET" then app.respondAt year r.query e
    else (some (detail 405 "Method Not Allowed"), app.session)

/-- The response to a request beyond the limit. It is given outside the layer that adds the
security headers. -/
def tooMany : Response := .json 429 tooManyRequests

/-- The response to a fault of the program. It is given outside all layers. -/
def crash : Response := .plain 500 (.text "Internal Server Error")

/-- What leaves the layer that adds the security headers. -/
def throughLayers : Option Response → Response
  | some r => r.withHeaders securityHeaders
  | none => crash

/-- The response to a request, and the application after it. -/
def respond (app : Application) (year : Int) (r : Request) : Response × Application :=
  let client := clientAddress app.settings.trustedHeaderList r.headers r.peer
  let (count, hits) := app.hits.hit client app.session.now windowSeconds
  if admits app.settings.rateLimitPerMinute count then
    let (response, session) := app.route year r
    (throughLayers response, { app with hits := hits, session := session })
  else (tooMany, { app with hits := hits })

end Application

end Electorate.Web
