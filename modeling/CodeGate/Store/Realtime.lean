import CodeGate.Json.Reader
import CodeGate.Store.Interface
import CodeGate.Store.Path
import CodeGate.Text.Blank
import CodeGate.Text.Quoted
import CodeGate.Url.Form
import CodeGate.Url.Parser
import CodeGate.Wire.Records

/-!
# The realtime database

The store kept by a realtime database that is reached over HTTP: `PATCH` merges, `PUT` replaces and `GET`
reads, each at the address of a path below the address of the database. Every call sends one request
at most, and what the server answers decides what the call comes to.

Follows `FirebaseStore` with `url_for`, `with_auth` and `send`; section 11 of the specification.
-/

namespace CodeGate.Store.Realtime

open CodeGate.Json CodeGate.Wire

/-- What makes a call fail. -/
inductive Fault where
  | invalidConfig (reason : String)
  | invalidPath (path : String)
  | transport
  | status (code : Nat) (body : String)
  | malformedBody
  deriving DecidableEq, Repr

/-- The failure in words. -/
def Fault.message : Fault → String
  | invalidConfig reason => "invalid config: " ++ reason
  | invalidPath path => "invalid path: " ++ Text.quoted path
  | transport => "http"
  | status code body => "status " ++ toString code ++ ": " ++ body
  | malformedBody => "serde: error decoding response body"

/-- A database: its address as it was given, the same in its parts, the token that goes with every
request, and how long a request may take. -/
structure Database where
  baseUrl : String
  address : Url.Address
  authToken : Option String
  timeoutMs : Nat

/-- The database that settings describe. White space around the address and slashes at its end do not
count, and neither does a blank token. -/
def connect (config : RemoteConfig) : Except Fault Database :=
  let baseUrl := Text.dropEndSlashes (Text.trim config.databaseUrl)
  if baseUrl = "" then .error (.invalidConfig "database_url is empty")
  else
    match Url.read baseUrl with
    | .error fault => .error (.invalidConfig ("database_url " ++ baseUrl ++ ": " ++ fault.message))
    | .ok .other => .error (.invalidConfig ("database_url must be an http(s) url, got " ++ baseUrl))
    | .ok (.web address) =>
      let authToken := (config.authToken.map Text.trim).filter (· ≠ "")
      .ok { baseUrl, address, authToken, timeoutMs := config.timeoutMs }

/-- The address of a path. Segments of dots would lead elsewhere and are refused. -/
def addressFor (db : Database) (path : String) : Except Fault Url.Address :=
  let keys := segments path
  if keys = [] ∨ keys.any (fun key => key = "." || key = "..") then .error (.invalidPath path)
  else
    let last := keys.getLast?.getD ""
    .ok (db.address.addSegments (keys.dropLast ++ [last ++ ".json"]))

/-- The address of a path, as it is written. -/
def recordUrl (db : Database) (path : String) : Except Fault String :=
  (addressFor db path).map (·.text)

/-- What a call does. -/
inductive Verb where
  | patch
  | put
  | get
  deriving DecidableEq, Repr

/-- The method of a request. -/
def Verb.method : Verb → String
  | patch => "PATCH"
  | put => "PUT"
  | get => "GET"

/-- The name under which a call is logged. -/
def Verb.name : Verb → String
  | patch => "patch"
  | put => "put"
  | get => "get"

/-- A request to the database. -/
structure Request where
  method : String
  address : Url.Address
  contentType : Option String
  body : String

/-- The path of a request. -/
def Request.path (r : Request) : String := String.ofList (Url.pathChars r.address.path)

/-- The query of a request. -/
def Request.query (r : Request) : Option String := r.address.query.map String.ofList

/-- What a request comes to: an answer of the server, or none. -/
inductive Reply where
  | answered (status : Nat) (body : String)
  | failed
  deriving DecidableEq, Repr

/-- How requests reach the server: each is answered with a state in view, which it may change. -/
structure Transport (σ : Type) where
  send : Request → σ → Reply × σ

/-- The transport with which no server can be reached. -/
def unreachable : Transport Unit where
  send _ state := (.failed, state)

/-- The address with the token as one more pair of its query. -/
def withToken (token : Option String) (address : Url.Address) : Url.Address :=
  match token with
  | none => address
  | some token =>
    { address with query := some (Url.Form.append (address.query.map String.ofList) "auth" token).toList }

/-- The request of a call; a body is compact JSON. -/
def request (db : Database) (verb : Verb) (address : Url.Address) (body : Option Value) : Request where
  method := verb.method
  address := withToken db.authToken address
  contentType := body.map fun _ => "application/json"
  body := (body.map Value.text).getD ""

/-- What a call comes to: its result, what was logged, and the state of the transport. -/
structure Called (σ α : Type) where
  result : Except Fault α
  log : List Log.Entry
  state : σ

/-- The entry of a call. -/
def callEntry (verb : Verb) (path : String) : Log.Entry :=
  { level := .debug, message := "firebase " ++ verb.name, fields := [("path", path)] }

/-- Makes a call: nothing is sent for a refused path, and only a status from 200 to 299 is success. -/
def call {σ α : Type} (transport : Transport σ) (db : Database) (verb : Verb) (path : String)
    (body : Option Value) (read : String → Except Fault α) (state : σ) : Called σ α :=
  match addressFor db path with
  | .error fault => ⟨.error fault, [], state⟩
  | .ok address =>
    let (reply, state) := transport.send (request db verb address body) state
    let result := match reply with
      | .failed => .error .transport
      | .answered status body =>
        if 200 ≤ status ∧ status ≤ 299 then read body else .error (.status status body)
    ⟨result, [callEntry verb path], state⟩

/-- Merges fields into the object at a path. -/
def update {σ : Type} (transport : Transport σ) (db : Database) (path : String) (fields : Members) (state : σ) :
    Called σ Unit :=
  call transport db .patch path (some (.object fields)) (fun _ => .ok ()) state

/-- Puts a value at a path. -/
def set {σ : Type} (transport : Transport σ) (db : Database) (path : String) (value : Value) (state : σ) :
    Called σ Unit :=
  call transport db .put path (some value) (fun _ => .ok ()) state

/-- The value in the body of an answer; null counts as nothing. -/
def readBody (body : String) : Except Fault (Option Value) :=
  match Json.read body with
  | .error _ => .error .malformedBody
  | .ok .null => .ok none
  | .ok value => .ok (some value)

/-- Reads what is stored at a path. -/
def get {σ : Type} (transport : Transport σ) (db : Database) (path : String) (state : σ) :
    Called σ (Option Value) :=
  call transport db .get path none readBody state

/-- The database as the store of the operations. -/
def interface {σ : Type} (transport : Transport σ) (db : Database) : Interface σ where
  write w state :=
    let called := match w with
      | .update path fields => update transport db path fields state
      | .set path value => set transport db path value state
    let answer := match called.result with
      | .ok () => .done
      | .error fault => .refused fault.message
    { answer, log := called.log, state := called.state }

end CodeGate.Store.Realtime
