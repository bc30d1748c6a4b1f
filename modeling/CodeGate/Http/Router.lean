import CodeGate.GraphQL.Execution
import CodeGate.Http.MediaType
import CodeGate.Http.Request

/-!
# The routes

A path leads to a route or to none, and every route has the methods it is for. Bodies that come in are
JSON of a known shape; what is wrong with a body is told before anything is run.

Follows `build_router`, with `healthz`, `execute`, `graphql` and `SECTION_ROUTES`; sections 6 and 11 of the
specification. The limit of 2 MB for a body is left out.
-/

namespace CodeGate.Http

open CodeGate.Json CodeGate.Store

/-- The path that tells whether the gateway is up. -/
def healthPath : String := "/healthz"

/-- The path to run code at. -/
def executePath : String := "/graphql/execute"

/-- The path of the GraphQL endpoint. -/
def graphqlPath : String := "/graphql"

/-- The path of the echo session. -/
def sessionPath : String := "/ws"

/-- The header that names the user of a request. -/
def userHeader : String := "x-user-id"

/-- The sections that are not there yet: the path of each, and what is answered there. -/
def sections : List (String × String) :=
  [("/spec/", "Spec route"), ("/viz/", "Viz route"), ("/output/", "Output route"),
    ("/keys/", "Key route (tunneled)")]

/-- Where a path leads. -/
inductive Route where
  | health
  | execute
  | graphql
  | session
  | detail (text : String)
  | redirect (target : String)
  deriving DecidableEq, Repr

/-- The route of a path; the path of a section without its slash leads to the one with it. -/
def Route.ofPath? (path : String) : Option Route :=
  if path = healthPath then some health
  else if path = executePath then some execute
  else if path = graphqlPath then some graphql
  else if path = sessionPath then some session
  else
    match sections.find? fun s => s.1 = path || Text.dropEndSlashes s.1 = path with
    | none => none
    | some s => some (if s.1 = path then detail s.2 else redirect s.1)

/-- The methods of a route, as they are told to a client that used another. -/
def Route.allow : Route → String
  | execute | graphql => "POST"
  | _ => "GET,HEAD"

/-- A request that was answered: the response, what was logged, and the state of the store. -/
structure Handled (σ : Type) where
  response : Response
  log : List Log.Entry
  state : σ

/-- Whether the content type of a request says that its body is JSON. -/
def isJsonRequest (r : Request) : Bool :=
  ((r.header? "content-type").bind Request.visible?).any fun text =>
    (MediaType.ofText? text).any (·.isJson)

/-- The response to a body of another content type. -/
def wrongContentType : Response :=
  .words 415 "Expected request with `Content-Type: application/json`"

/-- The response to a body that is not JSON, or is not of the shape that was asked for. -/
def badBody (body : List Text.Glyph) (fault : Fault) : Response :=
  if fault.cause.isMismatch then
    .words 422 ("Failed to deserialize the JSON body into the target type: " ++ fault.trailMessage body)
  else .words 400 ("Failed to parse the request body as JSON: " ++ fault.trailMessage body)

/-- The record in the body of a request, or the response that says why there is none. What stands behind
the record is not looked at. -/
def readBody {α : Type} (shape : Shape α) (r : Request) : Except Response α :=
  if isJsonRequest r then
    let body := Text.Glyph.ofBytes r.body
    match shape.readFront body with
    | .ok record => .ok record
    | .error fault => .error (badBody body fault)
  else .error wrongContentType

/-- The shape of a GraphQL request; everything may be left out. -/
def graphqlShape : Shape GraphQL.Request where
  title := "Request"
  slots := [
    ⟨"query", false, fun _ s => (text s).map (·.map fun v q => { q with query := v })⟩,
    Wire.optionalTextSlot "operationName" fun v q => { q with operationName := v },
    ⟨"variables", false, fun depth s =>
      (orNull (Json.object depth) s).map (·.map fun v q => { q with givenValues := v.getD [] })⟩,
    ⟨"extensions", false, fun depth s => (orNull (Json.object depth) s).map (·.map fun _ q => q)⟩]
  blank := {}

/-- The user that a request names, if the name is visible text. -/
def userOf (r : Request) : Option String :=
  (r.header? userHeader).bind Request.visible?

/-- Answers a request to run code. -/
def handleExecute (payload : Wire.ExecutePayload) : Response × List Log.Entry :=
  let requested : Log.Entry :=
    { level := .info, message := "execute requested", fields := [("lang", payload.lang)] }
  let (result, log) := Operations.execute payload.code payload.lang
  match result with
  | .ok _ => (.json 200 Wire.ExecuteResponse.empty.write, requested :: log)
  | .error failure => (ofFailure failure, requested :: log)

/-- Answers a request for a session on a connection that cannot become one: what the request lacks comes
first. -/
def refuseSession (r : Request) : Response :=
  if r.method ≠ .get then .words 405 "Request method must be `GET`"
  else if !r.headerContains "connection" "upgrade" then
    .words 400 "Connection header did not include 'upgrade'"
  else if !r.headerIs "upgrade" "websocket" then
    .words 400 "`Upgrade` header did not include 'websocket'"
  else if !r.headerIs "sec-websocket-version" "13" then
    .words 400 "`Sec-WebSocket-Version` header did not include '13'"
  else if (r.header? "sec-websocket-key").isNone then
    .words 400 "`Sec-WebSocket-Key` header missing"
  else .words 426 "WebSocket request couldn't be upgraded since no upgrade state was present"

/-- Answers a request with a method that its route is for. -/
def handleRoute {σ : Type} (store : Interface σ) (route : Route) (r : Request) (state : σ) : Handled σ :=
  let plain (response : Response) : Handled σ := ⟨response, [], state⟩
  match route with
  | .health => plain (.json 200 (Wire.recordText [("ok", .bool true)]))
  | .detail text => plain (.json 200 (Wire.DetailResponse.write ⟨text⟩))
  | .redirect target => plain { status := 307, location := some target }
  | .session => plain (refuseSession r)
  | .execute =>
    match readBody Wire.ExecutePayload.shape r with
    | .error response => plain response
    | .ok payload =>
      let (response, log) := handleExecute payload
      ⟨response, log, state⟩
  | .graphql =>
    match readBody graphqlShape r with
    | .error response => plain response
    | .ok request =>
      let served := GraphQL.serve store (userOf r) request state
      ⟨.json 200 served.response.value.text, served.log, served.state⟩

/-- Whether a route is for a method. A route for reading is also for asking for the headers alone. -/
def Route.takes (route : Route) (method : Method) : Bool :=
  match route with
  | execute | graphql => method = .post
  | _ => method = .get || method = .head

/-- Answers a request. -/
def handle {σ : Type} (store : Interface σ) (r : Request) (state : σ) : Handled σ :=
  match Route.ofPath? r.path with
  | none => ⟨{ status := 404 }, [], state⟩
  | some route =>
    if route.takes r.method then
      let handled := handleRoute store route r state
      if r.method = .head then { handled with response := handled.response.withoutBody } else handled
    else ⟨{ status := 405, allow := some route.allow }, [], state⟩

end CodeGate.Http
