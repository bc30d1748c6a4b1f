import CodeGate.CommandLine.Arguments
import CodeGate.CommandLine.SocketAddress
import CodeGate.Settings.Environment
import CodeGate.Store.Realtime

/-!
# Serving

Each setting is the first one given of a flag, the settings and a default. With the remote database
nothing is served before its address and its token are known to be usable.

Follows `serve`, `firebase_config` and `run_http`; sections 10.4 and 11 of the specification.
-/

namespace CodeGate.CommandLine

open CodeGate.Settings

/-- What was done, and what was logged meanwhile. -/
abbrev Logged (α : Type) := Except String α × List Log.Entry

/-- The address to listen at if none is given. -/
def defaultAddr : String := "127.0.0.1:8000"

/-- The variable that holds the token of the database if none is named. -/
def defaultTokenEnv : String := "CODEVIZ_FIREBASE_TOKEN"

/-- The complaint about a missing address of the database. -/
def missingDatabaseUrl : String :=
  "firebase backend requires a database url (--database-url or firebase.database_url)"

/-- The warning that requests go out without a token. -/
def noTokenEntry (name : String) : Log.Entry where
  level := .warn
  message := "no database auth token set; requests go unauthenticated"
  fields := [("env", name)]

/-- The variable that holds the token of the database. -/
def tokenVariable (flag : Option String) (settings : RemoteSettings) : String :=
  (flag.or settings.authTokenEnv).getD defaultTokenEnv

/-- The settings of the remote database. A blank address is none, whoever gives it, and so is a blank
token. -/
def remoteConfig (urlFlag tokenFlag : Option String) (settings : AppSettings) (env : Environment) :
    Logged Wire.RemoteConfig :=
  let remote := settings.firebase.getD {}
  match (urlFlag.or remote.databaseUrl).filter fun url => !Text.allBlank url with
  | none => (.error missingDatabaseUrl, [])
  | some databaseUrl =>
    let name := tokenVariable tokenFlag remote
    let authToken := (env.value? name).filter fun token => !Text.allBlank token
    let config : Wire.RemoteConfig := { databaseUrl, authToken }
    let config := match remote.timeoutMs with
      | some timeoutMs => { config with timeoutMs }
      | none => config
    (.ok config, if authToken.isNone then [noTokenEntry name] else [])

/-- The words for an address that cannot be listened at. -/
def badAddress : String := "io: invalid socket address syntax"

/-- Runs the HTTP server at an address until it is interrupted, which happens at once. -/
def listen (addr : String) : Logged Unit :=
  if isSocketAddress addr then
    (.ok (), [
      { level := .info, message := "http server listening", fields := [("addr", addr)] },
      { level := .info, message := "ctrl_c received; shutting down http server" },
      { level := .info, message := "graceful shutdown complete" }])
  else (.error badAddress, [])

/-- The entry for a server that is about to start. -/
def startingEntry (backend : Backend) (addr : String) : Log.Entry where
  level := .info
  message := "starting server"
  fields := [("backend", backend.title), ("addr", addr)]

/-- The entry for a server that stopped with an error. -/
def serverFailedEntry (reason : String) : Log.Entry where
  level := .error
  message := "http server exited with error"
  fields := [("error", reason)]

/-- The store that is served from. -/
inductive ServedStore where
  | memory
  | database (db : Store.Realtime.Database)

/-- The store of a backend, or why there is none. -/
def openStore (backend : Backend) (flags : ServeFlags) (settings : AppSettings) (env : Environment) :
    Logged ServedStore :=
  match backend with
  | .ephemeral => (.ok .memory, [])
  | .firebase =>
    let (config, log) := remoteConfig flags.databaseUrl flags.authTokenEnv settings env
    match config with
    | .error complaint => (.error complaint, log)
    | .ok config =>
      match Store.Realtime.connect config with
      | .ok db => (.ok (.database db), log)
      | .error fault => (.error ("failed to init firebase store: " ++ fault.message), log)

/-- The backend to serve with. -/
def chosenBackend (flags : ServeFlags) (settings : AppSettings) : Backend :=
  (flags.backend.or (settings.serve.bind (·.backend))).getD .ephemeral

/-- The address to listen at. -/
def chosenAddr (flags : ServeFlags) (settings : AppSettings) : String :=
  (flags.addr.or (settings.serve.bind (·.addr))).getD defaultAddr

/-- Serves until interrupted. -/
def serve (flags : ServeFlags) (settings : AppSettings) (env : Environment) : Logged Unit :=
  let backend := chosenBackend flags settings
  let addr := chosenAddr flags settings
  let (store, storeLog) := openStore backend flags settings env
  let log := startingEntry backend addr :: storeLog
  match store with
  | .error complaint => (.error complaint, log)
  | .ok _ =>
    match listen addr with
    | (.ok (), more) => (.ok (), log ++ more)
    | (.error reason, more) =>
      (.error ("http server failed: " ++ reason), log ++ more ++ [serverFailedEntry reason])

end CodeGate.CommandLine
