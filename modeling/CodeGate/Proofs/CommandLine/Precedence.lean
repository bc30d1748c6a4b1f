import CodeGate.CommandLine.Program
import CodeGate.Proofs.Settings.Reading
import CodeGate.Proofs.Store.RecordUrl

/-!
# Which settings are served with

The program takes each setting by itself from the first of a flag, the sources and a default that has a value for
it; in the sources the file comes before the environment. What else the same section holds, and who gave it, does
not matter, and all that serving does follows from the settings that were chosen. An address of the database that is
blank is not passed over in favour of another one: nothing is served then, and neither if the database cannot be set
up.

Section 10.4 of the specification sets the order of the sources.
-/

namespace CodeGate.CommandLine

open CodeGate.Settings

/-- What is chosen for each setting. -/
structure Choice where
  backend : Backend
  addr : String
  databaseUrl : Option String
  tokenEnv : String
  timeoutMs : Nat
  deriving DecidableEq

/-- The choice between flags, what the sources say and the defaults. -/
def choice (flags : ServeFlags) (env : Environment) (file : Source) : Choice where
  backend := (flags.backend.or (reading (fun _ => readBackend) (said? env file "serve" "backend" 0))).getD .ephemeral
  addr := (flags.addr.or (reading readText (said? env file "serve" "addr" 1))).getD "127.0.0.1:8000"
  databaseUrl := flags.databaseUrl.or (reading readText (said? env file "firebase" "database_url" 0))
  tokenEnv := (flags.authTokenEnv.or (reading readText (said? env file "firebase" "auth_token_env" 1))).getD
    "CODEVIZ_FIREBASE_TOKEN"
  timeoutMs := (reading readNatural (said? env file "firebase" "timeout_ms" 2)).getD 10000

namespace Choice

/-- The choice has no address of the database that can be read. -/
def Blank (c : Choice) : Prop := ∀ url, c.databaseUrl = some url → Text.allBlank url = true

/-- The token in the chosen variable, unless it is blank. -/
def token? (c : Choice) (env : Environment) : Option String :=
  (env.value? c.tokenEnv).filter fun token => !Text.allBlank token

/-- How the database at an address is set up. -/
def config (c : Choice) (env : Environment) (url : String) : Wire.RemoteConfig where
  databaseUrl := url
  authToken := c.token? env
  timeoutMs := c.timeoutMs

/-- The warning if there is no token. -/
def warnings (c : Choice) (env : Environment) : List Log.Entry :=
  if (c.token? env).isNone then [noTokenEntry c.tokenEnv] else []

/-- The entry that comes first. -/
def starting (c : Choice) : Log.Entry := startingEntry c.backend c.addr

/-- How serving goes with a store, when that has been opened. -/
def served (c : Choice) (log : List Log.Entry) : Logged Unit :=
  match listen c.addr with
  | (.ok (), more) => (.ok (), c.starting :: log ++ more)
  | (.error reason, more) =>
    (.error ("http server failed: " ++ reason), c.starting :: log ++ more ++ [serverFailedEntry reason])

/-- Flags and settings come to a choice: it is what they are served with. -/
structure Governs (c : Choice) (flags : ServeFlags) (settings : AppSettings) (env : Environment) : Prop where
  backend : chosenBackend flags settings = c.backend
  addr : chosenAddr flags settings = c.addr
  tokenEnv : tokenVariable flags.authTokenEnv (settings.firebase.getD {}) = c.tokenEnv
  config (url : String) (given : c.databaseUrl = some url) (visible : Text.allBlank url = false) :
    remoteConfig flags.databaseUrl flags.authTokenEnv settings env = (.ok (c.config env url), c.warnings env)
  noConfig (blank : c.Blank) :
    remoteConfig flags.databaseUrl flags.authTokenEnv settings env = (.error missingDatabaseUrl, [])
  memory (chosen : c.backend = .ephemeral) : serve flags settings env = c.served []
  blank (chosen : c.backend = .firebase) (blank : c.Blank) :
    serve flags settings env = (.error missingDatabaseUrl, [c.starting])
  refused (chosen : c.backend = .firebase) (url : String) (given : c.databaseUrl = some url)
    (visible : Text.allBlank url = false) (fault : Store.Realtime.Fault)
    (refused : Store.Realtime.connect (c.config env url) = .error fault) :
    serve flags settings env =
      (.error ("failed to init firebase store: " ++ fault.message), c.starting :: c.warnings env)
  database (chosen : c.backend = .firebase) (url : String) (given : c.databaseUrl = some url)
    (visible : Text.allBlank url = false) (db : Store.Realtime.Database)
    (opened : Store.Realtime.connect (c.config env url) = .ok db) :
    serve flags settings env = c.served (c.warnings env)

end Choice

/-! ## Serving with a choice -/

section

variable {flags : ServeFlags} {settings : AppSettings} {env : Environment} {c : Choice}

/-- The settings of the remote database, as far as they are used: without the section there are none. -/
theorem remoteConfig_eq (flags : ServeFlags) (settings : AppSettings) (env : Environment) :
    remoteConfig flags.databaseUrl flags.authTokenEnv settings env =
      match (flags.databaseUrl.or (settings.firebase.bind (·.databaseUrl))).filter fun url => !Text.allBlank url with
      | none => (.error missingDatabaseUrl, [])
      | some databaseUrl =>
        let name := (flags.authTokenEnv.or (settings.firebase.bind (·.authTokenEnv))).getD defaultTokenEnv
        let authToken := (env.value? name).filter fun token => !Text.allBlank token
        (.ok { databaseUrl, authToken, timeoutMs := (settings.firebase.bind (·.timeoutMs)).getD 10000 },
          if authToken.isNone then [noTokenEntry name] else []) := by
  unfold remoteConfig tokenVariable
  obtain ⟨_, _ | ⟨url, token, _ | timeout⟩⟩ := settings <;> rfl

theorem Choice.url_of_visible {url : String} (given : c.databaseUrl = some url)
    (visible : Text.allBlank url = false) : (c.databaseUrl.filter fun url => !Text.allBlank url) = some url := by
  rw [given, Option.filter_some, if_pos (by rw [visible, Bool.not_false])]

theorem Choice.url_of_blank (blank : c.Blank) : (c.databaseUrl.filter fun url => !Text.allBlank url) = none := by
  rw [Option.filter_eq_none_iff]
  intro url given
  rw [blank url given]
  decide

theorem Choice.serve_of_opened (backend : chosenBackend flags settings = c.backend)
    (addr : chosenAddr flags settings = c.addr) {store : ServedStore} {log : List Log.Entry}
    (opened : openStore c.backend flags settings env = (.ok store, log)) :
    serve flags settings env = c.served log := by
  simp only [serve, backend, addr, opened]
  rfl

theorem Choice.serve_of_unopened (backend : chosenBackend flags settings = c.backend)
    (addr : chosenAddr flags settings = c.addr) {complaint : String} {log : List Log.Entry}
    (unopened : openStore c.backend flags settings env = (.error complaint, log)) :
    serve flags settings env = (.error complaint, c.starting :: log) := by
  simp only [serve, backend, addr, unopened]
  rfl

/-- Five equations are enough for a choice to govern: nothing else of flags and settings is used. -/
theorem Choice.governs (backend : chosenBackend flags settings = c.backend)
    (addr : chosenAddr flags settings = c.addr)
    (databaseUrl : flags.databaseUrl.or (settings.firebase.bind (·.databaseUrl)) = c.databaseUrl)
    (tokenEnv : (flags.authTokenEnv.or (settings.firebase.bind (·.authTokenEnv))).getD defaultTokenEnv = c.tokenEnv)
    (timeoutMs : (settings.firebase.bind (·.timeoutMs)).getD 10000 = c.timeoutMs) :
    c.Governs flags settings env := by
  have remote := remoteConfig_eq flags settings env
  rw [databaseUrl, tokenEnv, timeoutMs] at remote
  have config (url : String) (given : c.databaseUrl = some url) (visible : Text.allBlank url = false) :
      remoteConfig flags.databaseUrl flags.authTokenEnv settings env = (.ok (c.config env url), c.warnings env) := by
    rw [remote, url_of_visible given visible]
    rfl
  have noConfig (blank : c.Blank) :
      remoteConfig flags.databaseUrl flags.authTokenEnv settings env = (.error missingDatabaseUrl, []) := by
    rw [remote, url_of_blank blank]
  constructor
  case backend => exact backend
  case addr => exact addr
  case tokenEnv =>
    rw [← tokenEnv, tokenVariable]
    cases settings.firebase <;> rfl
  case config => exact config
  case noConfig => exact noConfig
  case memory =>
    intro chosen
    exact serve_of_opened backend addr (by rw [chosen]; rfl)
  case blank =>
    intro chosen blank
    apply serve_of_unopened backend addr
    simp only [openStore, chosen, noConfig blank]
  case refused =>
    intro chosen url given visible fault refused
    apply serve_of_unopened backend addr
    simp only [openStore, chosen, config url given visible, refused]
  case database =>
    intro chosen url given visible db opened
    apply serve_of_opened backend addr
    · simp only [openStore, chosen, config url given visible, opened]
      rfl

end

/-! ## The choice between the sources -/

/-- The entries of the file at a path, if it can be read; there are none without a path. -/
def fileAt (env : Environment) (files : Files) : (path : Option String) → Option Source
  | none => some []
  | some path => (fileSource files (fromHome env path)).1

theorem load_eq (env : Environment) (files : Files) (path : Option String) :
    (load env files path).1 =
      match fileAt env files path with
      | none => .error .unloadable
      | some file => (decode (combine env file)).mapError .unfit := by
  unfold load fileAt
  cases path with
  | none =>
    dsimp only
    cases decode (combine env []) <;> rfl
  | some path =>
    dsimp only
    cases (fileSource files (fromHome env path)).1 with
    | none => rfl
    | some file =>
      dsimp only
      cases decode (combine env file) <;> rfl

theorem of_load {env : Environment} {files : Files} {path : Option String} {settings : AppSettings}
    (loaded : (load env files path).1 = .ok settings) :
    ∃ file, fileAt env files path = some file ∧ decode (combine env file) = .ok settings := by
  rw [load_eq] at loaded
  cases read : fileAt env files path with
  | none =>
    rw [read] at loaded
    cases loaded
  | some file =>
    rw [read] at loaded
    cases decoded : decode (combine env file) with
    | error fault =>
      simp only [decoded] at loaded
      cases loaded
    | ok given =>
      simp only [decoded] at loaded
      exact ⟨file, rfl, decoded.trans (congrArg Except.ok (Except.ok.inj loaded))⟩

/-- Whatever the flags, the environment and the file are, if the settings can be loaded, the choice between them
governs. -/
theorem governed_by_choice (flags : ServeFlags) {env : Environment} {files : Files} {path : Option String}
    {settings : AppSettings} (loaded : (load env files path).1 = .ok settings) :
    ∃ file, fileAt env files path = some file ∧ (choice flags env file).Governs flags settings env := by
  obtain ⟨file, read, decoded⟩ := of_load loaded
  obtain ⟨serve, remote⟩ := reads_of_decode decoded
  refine ⟨file, read, Choice.governs ?_ ?_ ?_ ?_ ?_⟩
  · rw [chosenBackend, takes_backend.setting_eq steady_readBackend serve]
    rfl
  · rw [chosenAddr, takes_addr.setting_eq steady_readText serve]
    rfl
  · rw [takes_databaseUrl.setting_eq steady_readText remote]
    rfl
  · rw [takes_authTokenEnv.setting_eq steady_readText remote]
    rfl
  · rw [takes_timeoutMs.setting_eq steady_readNatural remote]
    rfl

/-- Sections of which each source holds a part, and a flag. -/
theorem governed_by_parts :
    let flags : ServeFlags := { addr := some "0.0.0.0:1" }
    let env : Environment :=
      [("CODEVIZ__FIREBASE__DATABASE_URL", "https://h"), ("CODEVIZ__SERVE__BACKEND", "ephemeral")]
    let files : Files := fun _ => some
      "\x7b\"serve\":\x7b\"backend\":\"firebase\"\x7d,\"firebase\":\x7b\"timeout_ms\":250\x7d\x7d"
    let settings : AppSettings :=
      { serve := some { backend := some .firebase },
        firebase := some { databaseUrl := some "https://h", timeoutMs := some 250 } }
    (load env files (some "c.json")).1 = .ok settings ∧ chosenBackend flags settings = .firebase ∧
      chosenAddr flags settings = "0.0.0.0:1" ∧
      remoteConfig flags.databaseUrl flags.authTokenEnv settings env =
        (.ok { databaseUrl := "https://h", timeoutMs := 250 }, [noTokenEntry "CODEVIZ_FIREBASE_TOKEN"]) := by
  intro flags env files settings
  have loaded : (load env files (some "c.json")).1 = .ok settings :=
    Store.Realtime.eq_ok_of_toOption (by decide +kernel)
  obtain ⟨file, read, governs⟩ := governed_by_choice flags loaded
  have chosen : (fileAt env files (some "c.json")).map (choice flags env) =
      some ⟨.firebase, "0.0.0.0:1", some "https://h", "CODEVIZ_FIREBASE_TOKEN", 250⟩ := by
    decide +kernel
  rw [read] at chosen
  rw [Option.some.inj chosen] at governs
  exact ⟨loaded, governs.backend, governs.addr, governs.config "https://h" rfl (by decide)⟩

/-- Without a table for its section, or with null for its key, a file hides the address that the environment has. -/
theorem nulls_hide_environment :
    let env : Environment := [("CODEVIZ__SERVE__ADDR", "127.0.0.1:9")]
    let files : Files := fun path => List.lookup path
      [("section.json", "\x7b\"serve\":null\x7d"), ("list.json", "\x7b\"serve\":[\"ephemeral\",null]\x7d"),
        ("key.json", "\x7b\"serve\":\x7b\"addr\":null\x7d\x7d")]
    (load env files none).1.toOption.map (chosenAddr {}) = some "127.0.0.1:9" ∧
      ∀ path ∈ ["section.json", "list.json", "key.json"],
        (load env files (some path)).1.toOption.map (chosenAddr {}) = some "127.0.0.1:8000" := by
  decide +kernel

end CodeGate.CommandLine
