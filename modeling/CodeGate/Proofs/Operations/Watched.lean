import CodeGate.Proofs.Json.Brackets
import CodeGate.Proofs.Operations.Progress

/-!
# What a store is asked to write

A store of any kind is watched: it runs as before, and the writes asked of it are noted. What is linked is
bare. What is saved is bare exactly if no escape in the data stands for a bracket, since the gate looks at
the text before its escapes are read.

Section 6 of the specification has stores receive sanitized strings only.
-/

namespace CodeGate

open CodeGate.Json CodeGate.Store

namespace Store

/-- What a write hands over is bare: its fields, or its value. -/
def Write.Bare : Write → Prop
  | .update _ fields => Value.BareMembers fields
  | .set _ value => value.Bare

/-- The store with a row of the writes asked of it beside its state. -/
def Interface.watched {σ : Type} (store : Interface σ) : Interface (σ × List Write) where
  write call state :=
    let effect := store.write call state.1
    { answer := effect.answer, log := effect.log, state := (effect.state, state.2 ++ [call]) }

end Store

namespace Operations

variable {σ : Type} (store : Interface σ) {user : Option String} {token data id : String}

/-- The writes of a plan. -/
def plannedWrites : Except Failure Planned → List Write
  | .ok planned => [planned.call]
  | .error _ => []

/-- A run with the writes that were seen beside its state. -/
def withWrites {α : Type} (run : Run σ α) (writes : List Write) : Run (σ × List Write) α :=
  ⟨run.ending, run.log, (run.state, writes)⟩

/-- Watching a store changes nothing, and what is seen is what was planned. -/
theorem runPlanned_watched (label success result : String) (plan : Except Failure Planned) (state : σ)
    (seen : List Write) :
    runPlanned store.watched label success result plan (state, seen) =
      withWrites (runPlanned store label success result plan state) (seen ++ plannedWrites plan) := by
  cases plan with
  | error f => simp [runPlanned, withWrites, plannedWrites]
  | ok planned =>
    simp only [runPlanned, Interface.watched, plannedWrites]
    cases (store.write planned.call state).answer <;> rfl

theorem link_watched (user : Option String) (token : String) (state : σ) (seen : List Write) :
    link store.watched user token (state, seen) =
      withWrites (link store user token state) (seen ++ plannedWrites (planLink user token)) :=
  runPlanned_watched store _ _ _ _ state seen

theorem save_watched (user : Option String) (data : String) (state : σ) (seen : List Write) :
    save store.watched user data (state, seen) =
      withWrites (save store user data state) (seen ++ plannedWrites (planSave user data)) :=
  runPlanned_watched store _ _ _ _ state seen

/-- What is linked is bare: the token went through the gate. -/
theorem bare_tokenFields (token : String) : Value.BareMembers (tokenFields token) := by
  have key : BareText "github_token" := by decide
  have text : BareText (Gate.sanitize token) := by
    intro c hc
    rw [Gate.toList_sanitize] at hc
    obtain ⟨x, -, hc⟩ := List.mem_flatMap.1 hc
    exact bareChars_entity x c hc
  exact ⟨key, text, trivial⟩

theorem bare_of_mem_planLink : ∀ w ∈ plannedWrites (planLink user token), w.Bare := by
  intro w hw
  cases required : UserId.require user with
  | error f =>
    rw [planLink_of_error required] at hw
    cases hw
  | ok id =>
    rw [planLink_of_ok required] at hw
    obtain rfl := List.mem_singleton.1 hw
    exact bare_tokenFields token

theorem bare_planSave_iff :
    (∀ w ∈ plannedWrites (planSave user data), w.Bare) ↔
      ∀ id t, UserId.require user = .ok id → Document data.toList t → t.Clean := by
  cases required : UserId.require user with
  | error f => simp [planSave_of_error required, plannedWrites]
  | ok id =>
    cases hr : read (Gate.sanitize data) with
    | error reason =>
      have noTree : ∀ t, ¬Document data.toList t := by
        intro t h
        have found := read_sanitize_eq_ok_iff.2 ⟨t, h, rfl⟩
        rw [hr] at found
        cases found
      simp [planSave_of_malformed required hr, plannedWrites, noTree]
    | ok v =>
      have written : ∀ t, Document data.toList t → v = t.value Gate.entity := by
        intro t h
        have found := read_sanitize_eq_ok_iff.2 ⟨t, h, rfl⟩
        exact Except.ok.inj (hr.symm.trans found)
      have single : (∀ w ∈ plannedWrites (planSave user data), w.Bare) ↔ v.Bare := by
        simp [planSave_of_ok required hr, plannedWrites, Write.Bare]
      rw [single]
      constructor
      · intro bare _ t _ h
        rw [written t h, bare_value_iff] at bare
        exact bare
      · intro clean
        obtain ⟨t, h, rfl⟩ := read_sanitize_eq_ok_iff.1 hr
        exact (bare_value_iff t).2 (clean id t rfl h)

/-- **What reaches the store.** Whatever the store, it runs as it would unwatched. A link hands over bare
fields only. A save hands over a bare value exactly if the data, where the user is accepted and they spell
a tree, have no escape that stands for a bracket in a string or a key that is kept. -/
theorem writes_bare_iff (user : Option String) (token data : String) (state : σ) :
    let linked := link store.watched user token (state, [])
    let saved := save store.watched user data (state, [])
    linked = withWrites (link store user token state) linked.state.2 ∧
      saved = withWrites (save store user data state) saved.state.2 ∧
      (∀ w ∈ linked.state.2, w.Bare) ∧
      ((∀ w ∈ saved.state.2, w.Bare) ↔
        ∀ id t, UserId.require user = .ok id → Document data.toList t → t.Clean) := by
  rw [link_watched, save_watched]
  exact ⟨rfl, rfl, bare_of_mem_planLink, bare_planSave_iff⟩

/-- A tag whose brackets are escapes passes the gate and is saved with raw brackets. -/
theorem escaped_tag_saved_raw :
    (save Memory.interface.watched (some "u1") "\"\\u003cb\\u003e\"" (.empty, [])).state.2 =
        [.set (progressRecord "u1") (.string "<b>")] ∧
      ¬(Write.set (progressRecord "u1") (.string "<b>")).Bare := by
  have accepted : UserId.check "u1" = .ok "u1" := UserId.check_eq_ok_iff.2 (by decide)
  have required : UserId.require (some "u1") = .ok "u1" := accepted
  have escaped : ∀ a b c d n x, hexFour? (.char a) (.char b) (.char c) (.char d) = some n →
      isLowSurrogate n = false → isHighSurrogate n = false → Char.ofNat n = x → Escaped ['u', a, b, c, d] x := by
    rintro a b c d n x number low high rfl
    exact .number (.four number) low high
  have marks : StringSpelled "\\u003cb\\u003e".toList [.escape '<', .plain 'b', .escape '>'] :=
    .escape (escaped '0' '0' '3' 'c' 0x3c '<' (by decide) (by decide) (by decide) (by decide)) <|
      .plain ⟨by decide, by decide, by decide⟩ <|
        .escape (escaped '0' '0' '3' 'e' 0x3e '>' (by decide) (by decide) (by decide) (by decide)) .nil
  have document : Document "\"\\u003cb\\u003e\"".toList (.string [.escape '<', .plain 'b', .escape '>']) :=
    .mk (b := []) nofun (.scalar (.string marks)) nofun
  have value : read (Gate.sanitize "\"\\u003cb\\u003e\"") = .ok (.string "<b>") :=
    read_sanitize_eq_ok_iff.2 ⟨_, document, rfl⟩
  constructor
  · rw [save_watched, planSave_of_ok required value]
    rfl
  · intro bare
    exact absurd (bare '<' (by decide)).1 (by decide)

end Operations

end CodeGate
