import CodeGate.Proofs.Json.Printed
import CodeGate.Proofs.Store.RecordUrl
import CodeGate.Proofs.Url.Form

/-!
# The requests of the realtime database

A call sends one request, or none if its path is refused. What is sent is settled by the database, the path
and the argument alone: the address of the path with the token as one more pair of its query, and the argument as
JSON. What the call comes to is settled by the answer alone. The server is any transport here, and it is watched
so that the requests it is sent can be counted.

Section 11 of the specification names the method of each call and the parameter of the token.
-/

namespace CodeGate.Store.Realtime

open CodeGate.Json CodeGate.Url CodeGate.Wire

variable {σ α : Type} {config : RemoteConfig} {db : Database} {path : String} {made : Address}
  {transport : Transport σ} {state : σ} {verb : Verb} {body : Option Value}

/-! ## Watching -/

/-- The transport with a row of the requests it is sent beside its state. -/
def Transport.watched (transport : Transport σ) : Transport (σ × List Request) where
  send r state :=
    let (reply, after) := transport.send r state.1
    (reply, after, state.2 ++ [r])

/-- The pairs in the query of an address. -/
def pairs (u : Address) : List (List UInt8 × List UInt8) := Form.decode (u.query.getD [])

/-- The pair that settings ask for: the trimmed token, unless there is none or nothing is left of it. -/
def tokenPairs (config : RemoteConfig) : List (List UInt8 × List UInt8) :=
  match config.authToken.map Text.trim with
  | none => []
  | some token => if token = "" then [] else [(Form.bytes "auth", Form.bytes token)]

/-- An address that carries pairs behind those of another one, and is the same but for that. -/
structure Carries (added : List (List UInt8 × List UInt8)) (made sent : Address) : Prop where
  same : sent = { made with query := sent.query }
  pairs : Realtime.pairs sent = Realtime.pairs made ++ added
  untouched : added = [] → sent = made

theorem pairs_withToken (token : String) (u : Address) :
    pairs (withToken (some token) u) = pairs u ++ [(Form.bytes "auth", Form.bytes token)] := by
  have query : ((u.query.map String.ofList).getD "").toList = u.query.getD [] := by
    cases u.query <;> simp
  rw [pairs, withToken, Option.getD_some, Form.decode_append, query, pairs]

theorem authToken_of_connect (h : connect config = .ok db) :
    db.authToken = (config.authToken.map Text.trim).filter (· ≠ "") := by
  unfold connect at h
  dsimp only at h
  split at h
  · cases h
  · split at h
    · cases h
    · cases h
    · rw [← Except.ok.inj h]

theorem carries_withToken (h : connect config = .ok db) (made : Address) :
    Carries (tokenPairs config) made (withToken db.authToken made) := by
  rw [authToken_of_connect h, tokenPairs]
  cases config.authToken.map Text.trim with
  | none => exact ⟨rfl, (List.append_nil _).symm, fun _ => rfl⟩
  | some token =>
    by_cases empty : token = ""
    · subst empty
      exact ⟨rfl, (List.append_nil _).symm, fun _ => rfl⟩
    · have kept : (some token).filter (· ≠ "") = some token := by simp [Option.filter, empty]
      rw [kept]
      dsimp only
      rw [if_neg empty]
      exact ⟨rfl, pairs_withToken token made, nofun⟩

theorem pairs_of_addressFor (found : addressFor db path = .ok made) : pairs made = pairs db.address := by
  obtain ⟨-, rfl⟩ := addressable_of_addressFor found
  rfl

/-! ## Requests -/

/-- An argument: canonical, as every object is kept, and with integers only. -/
structure Argument (v : Value) : Prop where
  canonical : v.Canonical
  whole : v.Whole

/-- What a body that is read comes to: nothing if it spells null, the value it spells otherwise, and a failure if it
spells none. -/
inductive Found : String → Except Fault (Option Value) → Prop where
  | nothing {text : String} {t : Written} (spelled : Document text.toList t) (null : t.value (fun c => [c]) = .null) :
      Found text (.ok none)
  | something {text : String} {t : Written} {v : Value} (spelled : Document text.toList t)
      (value : t.value (fun c => [c]) = v) (notNull : v ≠ .null) : Found text (.ok (some v))
  | malformed {text : String} (none : ∀ t, ¬Document text.toList t) : Found text (.error .malformedBody)

end CodeGate.Store.Realtime
