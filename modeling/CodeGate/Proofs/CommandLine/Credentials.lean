import CodeGate.Proofs.CommandLine.Precedence
import CodeGate.Proofs.Store.Record
import CodeGate.Proofs.Store.Requests

/-!
# Whether requests carry a token

That is decided twice. Where the database is configured, a token of white space alone counts as none, and the
warning follows this decision. Where the database is connected to, a token of which trimming leaves nothing
counts as none, and the requests follow that one. Both ask the same of a token, so the warning is logged exactly if
no request is given one.
-/

namespace CodeGate

/-! ## Blank tokens -/

namespace Text

/-- Trimming leaves nothing of a text exactly if it is blank. -/
theorem trim_eq_empty_iff {s : String} : trim s = "" ↔ allBlank s = true := by
  have left : trim s = "" ↔ ∀ c ∈ s.toList.dropWhile isBlank, isBlank c = true := by
    rw [← String.toList_inj, trim, String.toList_ofList, dropEndWhile, String.toList_empty,
      List.reverse_eq_nil_iff, List.dropWhile_eq_nil_iff]
    simp only [List.mem_reverse]
  rw [left, allBlank, List.all_eq_true]
  constructor
  · intro blank c hc
    by_contra visible
    exact visible (blank c (mem_dropWhile (Bool.eq_false_iff.2 visible) hc))
  · intro blank c hc
    exact blank c ((List.dropWhile_sublist isBlank).mem hc)

end Text

/-! ## The requests of many calls -/

namespace Store.Realtime

open CodeGate.Json CodeGate.Url CodeGate.Wire

variable {σ α : Type} {config : RemoteConfig} {db : Database} {added : List (List UInt8 × List UInt8)}

/-- A call of the database. -/
inductive Access where
  | update (path : String) (fields : Members)
  | set (path : String) (value : Value)
  | get (path : String)

/-- The path of a call. -/
def Access.path : Access → String
  | .update path _ | .set path _ | .get path => path

/-- Makes a call over a transport: the state of the transport afterwards. -/
def Access.make (transport : Transport σ) (db : Database) (state : σ) : Access → σ
  | .update path fields => (Realtime.update transport db path fields state).state
  | .set path value => (Realtime.set transport db path value state).state
  | .get path => (Realtime.get transport db path state).state

/-- The requests that calls send one after another. -/
def sentBy (transport : Transport σ) (db : Database) (calls : List Access) (state : σ) : List Request :=
  (calls.foldl (Access.make transport.watched db) (state, [])).2

/-- The address that a path gets, with the token of the database. -/
def signedFor (db : Database) (path : String) : Option Address :=
  (addressFor db path).toOption.map (withToken db.authToken)

/-- One call: behind the requests there were stands one to the address of its path, if that has one. -/
theorem addresses_call (transport : Transport σ) (verb : Verb) (path : String) (body : Option Value)
    (read : String → Except Fault α) (seen : σ × List Request) :
    (call transport.watched db verb path body read seen).state.2.map (·.address) =
      seen.2.map (·.address) ++ (signedFor db path).toList := by
  unfold call signedFor
  cases addressFor db path with
  | error fault => simp [Except.toOption]
  | ok made => simp [Except.toOption, Transport.watched, request]

theorem addresses_make (transport : Transport σ) (a : Access) (seen : σ × List Request) :
    (a.make transport.watched db seen).2.map (·.address) =
      seen.2.map (·.address) ++ (signedFor db a.path).toList := by
  cases a <;> exact addresses_call transport ..

/-- Many calls: their requests go to the addresses of their paths, in order, whatever the server answers. -/
theorem addresses_sentBy (transport : Transport σ) (db : Database) (calls : List Access) (state : σ) :
    (sentBy transport db calls state).map (·.address) = calls.filterMap fun a => signedFor db a.path := by
  -- the requests that were sent before stay in front
  have run : ∀ seen : σ × List Request,
      (calls.foldl (Access.make transport.watched db) seen).2.map (·.address) =
        seen.2.map (·.address) ++ calls.filterMap fun a => signedFor db a.path := by
    induction calls with
    | nil => intro seen; exact (List.append_nil _).symm
    | cons a calls ih =>
      intro seen
      rw [List.foldl_cons, ih, addresses_make, List.append_assoc, List.filterMap_cons]
      cases signedFor db a.path <;> rfl
  exact run (state, [])

/-- A request to the address of a path, with pairs added behind those of the database's own address. -/
def Request.Adds (db : Database) (added : List (List UInt8 × List UInt8)) (r : Request) : Prop :=
  ∃ path made, addressFor db path = .ok made ∧ Carries added made r.address

/-- Every request adds the pairs, whatever calls are made, over whatever transport. -/
def AddsAlways (db : Database) (added : List (List UInt8 × List UInt8)) : Prop :=
  ∀ (σ : Type) (transport : Transport σ) (state : σ) (calls : List Access),
    ∀ r ∈ sentBy transport db calls state, r.Adds db added

theorem addsAlways_tokenPairs (connected : connect config = .ok db) : AddsAlways db (tokenPairs config) := by
  intro σ transport state calls r hr
  have sent : r.address ∈ (sentBy transport db calls state).map (·.address) := List.mem_map_of_mem hr
  rw [addresses_sentBy] at sent
  obtain ⟨a, -, signed⟩ := List.mem_filterMap.1 sent
  obtain ⟨made, found, same⟩ := Option.map_eq_some_iff.1 signed
  refine ⟨a.path, made, ?_, ?_⟩
  · exact eq_ok_of_toOption found
  · rw [← same]
    exact carries_withToken connected made

/-- There is a call that sends a request, so that only one row of pairs can be the one that is always added. -/
theorem AddsAlways.unique {other : List (List UInt8 × List UInt8)} (h : AddsAlways db added)
    (h' : AddsAlways db other) : added = other := by
  classical
  have addressable : Addressable "a" := ⟨by decide, by decide, by decide⟩
  have addressed : signedFor db "a" ≠ none := by
    rw [signedFor, addressFor_eq, if_pos addressable]
    nofun
  have sent : sentBy unreachable db [.get "a"] () ≠ [] := by
    intro none
    have addresses := addresses_sentBy unreachable db [.get "a"] ()
    rw [none, List.map_nil] at addresses
    exact addressed (List.filterMap_eq_nil_iff.1 addresses.symm _ (List.mem_singleton_self _))
  obtain ⟨r, hr⟩ := List.exists_mem_of_ne_nil _ sent
  obtain ⟨_, made, found, carries⟩ := h _ _ _ _ r hr
  obtain ⟨_, made', found', carries'⟩ := h' _ _ _ _ r hr
  have same := carries.pairs.symm.trans carries'.pairs
  rw [pairs_of_addressFor found, pairs_of_addressFor found'] at same
  exact List.append_cancel_left same

/-- The pair of a token that is not blank holds what trimming leaves of it. -/
theorem tokenPairs_of_visible {token : String} (given : config.authToken = some token)
    (visible : Text.allBlank token = false) :
    tokenPairs config = [(Form.bytes "auth", Form.bytes (Text.trim token))] := by
  have left : Text.trim token ≠ "" := by
    rw [ne_eq, Text.trim_eq_empty_iff, visible]
    decide
  simp only [tokenPairs, given, Option.map_some, if_neg left]

theorem tokenPairs_of_none (none : config.authToken = none) : tokenPairs config = [] := by
  simp only [tokenPairs, none, Option.map_none]

end Store.Realtime

/-! ## The warning -/

namespace CommandLine

open CodeGate.Settings CodeGate.Store.Realtime CodeGate.Url

variable {flags : ServeFlags} {settings : AppSettings} {env : Environment} {config : Wire.RemoteConfig}
  {log : List Log.Entry} {db : Database}

/-- It was logged that requests go out without a token. -/
def Warned (log : List Log.Entry) : Prop :=
  ∃ e ∈ log, e.level = .warn ∧ e.message = "no database auth token set; requests go unauthenticated"

/-- The variable with the token, named by the flag, else by the settings, else by the default. -/
def namedVariable (flags : ServeFlags) (settings : AppSettings) : String :=
  (flags.authTokenEnv.or (settings.firebase.bind (·.authTokenEnv))).getD "CODEVIZ_FIREBASE_TOKEN"

theorem token_of_remoteConfig
    (configured : remoteConfig flags.databaseUrl flags.authTokenEnv settings env = (.ok config, log)) :
    config.authToken = ((env.value? (namedVariable flags settings)).filter fun token => !Text.allBlank token) ∧
      log = if config.authToken.isNone then [noTokenEntry (namedVariable flags settings)] else [] := by
  rw [remoteConfig_eq] at configured
  split at configured
  · cases configured
  · cases configured
    exact ⟨rfl, rfl⟩

/-- **The warning is truthful.** Whatever the flags, the settings and the environment, if they configure a database
and it can be connected to, then the warning is logged exactly if nothing is added to any request of any calls. If it
is not logged, the chosen variable has a value, and each request is given one pair: the value, trimmed, as `auth`. -/
theorem warned_iff_unauthenticated
    (configured : remoteConfig flags.databaseUrl flags.authTokenEnv settings env = (.ok config, log))
    (connected : connect config = .ok db) :
    (Warned log ↔ AddsAlways db []) ∧
      (¬Warned log → ∃ value, env.value? (namedVariable flags settings) = some value ∧
        AddsAlways db [(Form.bytes "auth", Form.bytes (Text.trim value))]) := by
  obtain ⟨token, logged⟩ := token_of_remoteConfig configured
  have always := addsAlways_tokenPairs connected
  cases given : config.authToken with
  | none =>
    have warned : Warned log := by
      rw [logged, given]
      exact ⟨_, List.mem_singleton_self _, rfl, rfl⟩
    rw [tokenPairs_of_none given] at always
    exact ⟨⟨fun _ => always, fun _ => warned⟩, fun silent => absurd warned silent⟩
  | some value =>
    have silent : ¬Warned log := by
      rw [logged, given]
      rintro ⟨e, none, -⟩
      cases none
    rw [given, eq_comm, Option.filter_eq_some_iff, Bool.not_eq_true'] at token
    obtain ⟨found, visible⟩ := token
    rw [tokenPairs_of_visible given visible] at always
    refine ⟨⟨fun warned => absurd warned silent, fun nothing => ?_⟩, fun _ => ⟨value, found, always⟩⟩
    cases always.unique nothing

/-- A token between an ideographic space and a line break, in a variable that the settings name; the default has a
token as well. -/
theorem trimmed_token_of_named_variable :
    let flags : ServeFlags := { databaseUrl := some "http://[::1]/?auth=x" }
    let settings : AppSettings := { firebase := some { authTokenEnv := some "DB_TOKEN" } }
    let env : Environment := [("CODEVIZ_FIREBASE_TOKEN", "t"), ("DB_TOKEN", "\u3000s3\n")]
    ∃ config db, remoteConfig flags.databaseUrl flags.authTokenEnv settings env = (.ok config, []) ∧
      connect config = .ok db ∧ ¬Warned [] ∧ ¬AddsAlways db [] ∧
      AddsAlways db [(Form.bytes "auth", Form.bytes "s3")] := by
  intro flags settings env
  let config : Wire.RemoteConfig := { databaseUrl := "http://[::1]/?auth=x", authToken := some "\u3000s3\n" }
  have configured : remoteConfig flags.databaseUrl flags.authTokenEnv settings env = (.ok config, []) := by
    decide +kernel
  obtain ⟨db, connected, -⟩ : ∃ db, connect config = .ok db ∧ (fun _ => true) db = true :=
    exists_connect (by decide +kernel)
  have silent : ¬Warned [] := by
    rintro ⟨e, none, -⟩
    cases none
  obtain ⟨truthful, signed⟩ := warned_iff_unauthenticated configured connected
  obtain ⟨value, found, always⟩ := signed silent
  obtain rfl : "\u3000s3\n" = value := Option.some.inj ((by decide +kernel : _ = _).trans found)
  have trimmed : Text.trim "\u3000s3\n" = "s3" := by decide +kernel
  rw [trimmed] at always
  exact ⟨config, db, configured, connected, silent, fun nothing => silent (truthful.2 nothing), always⟩

end CommandLine

end CodeGate
