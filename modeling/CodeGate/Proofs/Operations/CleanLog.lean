import CodeGate.Proofs.Json.Wording
import CodeGate.Proofs.Operations.Calls

/-!
# No entry can be forged

What a user sends reaches the log by three ways: an accepted identifier as it is, a refused one quoted, and data that
cannot be read through what is told of them. On none of them a control character gets through, so an entry stays one
line and nobody can write a second one into it. Refused identifiers that differ are told apart.
-/

namespace CodeGate

open CodeGate.Json CodeGate.Store CodeGate.Text

/-! ## Entries -/

/-- An entry whose message and whose fields hold no control characters. -/
structure Log.Entry.Clean (e : Log.Entry) : Prop where
  message : ControlFree e.message
  fields : ∀ field ∈ e.fields, ControlFree field.1 ∧ ControlFree field.2

/-- A clean entry is shown without control characters: it is one line. -/
theorem Log.Entry.Clean.line {e : Log.Entry} (h : e.Clean) : ControlFree e.line := by
  have space : ControlFree " " := by decide
  have equals : ControlFree "=" := by decide
  have level : ControlFree e.level.name := by
    cases e.level <;> decide
  unfold Log.Entry.line
  refine ((level.append space).append h.message).append (controlFree_join fun part hp => ?_)
  obtain ⟨field, hf, rfl⟩ := List.mem_map.1 hp
  obtain ⟨name, value⟩ := h.fields field hf
  refine ((space.append name).append equals).append ?_
  beta_reduce
  split
  · exact controlFree_quoted _
  · exact value

/-! ## Identifiers -/

namespace UserId

variable {text other id : String} {user : Option String} {f g : Failure}

theorem check_eq_error (h : check text = .error f) :
    trim text = "" ∧ f = .missingContext "user_id" ∨ f = .invalidUser (trim text) := by
  unfold check at h
  dsimp only at h
  split at h
  · next empty => exact .inl ⟨empty, (Except.error.inj h).symm⟩
  · split at h
    · cases h
    · exact .inr (Except.error.inj h).symm

/-- What is told of a missing or a refused identifier, which is quoted. -/
theorem controlFree_of_require (h : require user = .error f) : ControlFree f.message := by
  have missing : ControlFree (Failure.missingContext "user_id").message := by decide +kernel
  cases user with
  | none =>
    rw [← Except.error.inj h]
    exact missing
  | some text =>
    have checked : check text = .error f := h
    obtain ⟨-, rfl⟩ | rfl := check_eq_error checked
    · exact missing
    · have start : ControlFree "invalid user id: " := by decide +kernel
      exact start.append (controlFree_quoted _)

/-- An accepted identifier is free of control characters, since it may not hold any. -/
theorem controlFree_of_accepted (h : require user = .ok id) : ControlFree id := by
  obtain ⟨text, -, accepted⟩ := Operations.require_eq_ok_iff.1 h
  obtain ⟨-, -, all⟩ := check_eq_ok_iff.1 accepted
  intro c hc
  have allowed := List.all_eq_true.1 all c hc
  rw [UserId.allowed, Bool.and_eq_true, Bool.not_eq_true'] at allowed
  exact allowed.1

/-- What is told of two refused identifiers differs if they do. -/
theorem message_ne_of_trim_ne (h : check text = .error f) (h' : check other = .error g)
    (differ : trim text ≠ trim other) : f.message ≠ g.message := by
  -- what is told of a missing identifier starts otherwise than what is told of a refused one
  have kinds (id : String) : (Failure.missingContext "user_id").message ≠ (Failure.invalidUser id).message := by
    have missing : (Failure.missingContext "user_id").message.toList.head? = some 'm' := by decide +kernel
    have start : "invalid user id: ".toList.head? = some 'i' := by decide +kernel
    have cut : (Failure.invalidUser id).message.toList = "invalid user id: ".toList ++ (quoted id).toList :=
      String.toList_append
    have refused : (Failure.invalidUser id).message.toList.head? = some 'i' := by
      rw [cut, List.head?_append, start, Option.some_or]
    intro same
    have letters : some 'm' = some 'i' := missing.symm.trans ((congrArg (·.toList.head?) same).trans refused)
    cases letters
  obtain ⟨empty, rfl⟩ | rfl := check_eq_error h <;> obtain ⟨empty', rfl⟩ | rfl := check_eq_error h'
  · exact absurd (empty.trans empty'.symm) differ
  · exact kinds _
  · exact (kinds _).symm
  · intro same
    exact differ (quoted_inj.1 ((String.append_right_inj _).1 same))

end UserId

/-! ## Operations -/

namespace Operations

variable {σ : Type} {store : Interface σ} {plan : Except Failure Planned}

/-- A store that logs clean entries only and says clearly what it refuses. -/
structure CleanStore (store : Interface σ) : Prop where
  log : ∀ w state, ∀ e ∈ (store.write w state).log, e.Clean
  refusal : ∀ w state message, (store.write w state).answer = .refused message → ControlFree message

theorem cleanStore_memory : CleanStore Memory.interface where
  log w tree := by
    unfold Memory.interface
    dsimp only
    split <;> exact nofun
  refusal w tree message refused := by
    have start : ControlFree "invalid path: " := by decide +kernel
    unfold Memory.interface at refused
    dsimp only at refused
    split at refused
    · cases refused
    · cases refused
      exact start.append (controlFree_quoted _)

/-- A plan that fails in clean words, or is made for an identifier without control characters. -/
structure CleanPlan (plan : Except Failure Planned) : Prop where
  failure : ∀ f, plan = .error f → ControlFree f.message
  user : ∀ planned, plan = .ok planned → ControlFree planned.user

theorem cleanPlan_planLink (user : Option String) (token : String) : CleanPlan (planLink user token) := by
  cases required : UserId.require user with
  | error f =>
    rw [planLink_of_error required]
    exact ⟨by rintro _ ⟨⟩; exact UserId.controlFree_of_require required, nofun⟩
  | ok id =>
    rw [planLink_of_ok required]
    exact ⟨nofun, by rintro _ ⟨⟩; exact UserId.controlFree_of_accepted required⟩

theorem cleanPlan_planSave (user : Option String) (data : String) : CleanPlan (planSave user data) := by
  cases required : UserId.require user with
  | error f =>
    rw [planSave_of_error required]
    exact ⟨by rintro _ ⟨⟩; exact UserId.controlFree_of_require required, nofun⟩
  | ok id =>
    cases found : read (Gate.sanitize data) with
    | error reason =>
      have start : ControlFree "malformed data: " := by decide +kernel
      rw [planSave_of_malformed required found]
      exact ⟨by rintro _ ⟨⟩; exact start.append (controlFree_of_read found), nofun⟩
    | ok v =>
      rw [planSave_of_ok required found]
      exact ⟨nofun, by rintro _ ⟨⟩; exact UserId.controlFree_of_accepted required⟩

theorem clean_failureEntry {label : String} (named : ControlFree label) {f : Failure} (told : ControlFree f.message) :
    (failureEntry label f).Clean := by
  have behind : ControlFree " error" := by decide +kernel
  have name : ControlFree "error" := by decide +kernel
  cases f with
  | tooLong refusal =>
    have start : ControlFree "Validation error: " := by decide +kernel
    have reason : ControlFree refusal.message := by
      unfold Gate.TooLong.message
      decide +kernel
    exact ⟨start.append reason, nofun⟩
  | _ => exact ⟨named.append behind, List.forall_mem_singleton.2 ⟨name, told⟩⟩

/-- An operation over a clean store with a clean plan logs clean entries, whichever way it ends. -/
theorem clean_runPlanned (clean : CleanStore store) (planned : CleanPlan plan) {label success : String}
    (named : ControlFree label) (done : ControlFree success) (result : String) (state : σ) :
    ∀ e ∈ (runPlanned store label success result plan state).log, e.Clean := by
  cases plan with
  | error f => exact List.forall_mem_singleton.2 (clean_failureEntry named (planned.failure f rfl))
  | ok write =>
    have own := clean.log write.call state
    have refusal := clean.refusal write.call state
    unfold runPlanned
    dsimp only
    split
    · have name : ControlFree "user" := by decide +kernel
      have entry := planned.user write rfl
      exact List.forall_mem_append.2 ⟨own, List.forall_mem_singleton.2
        ⟨done, List.forall_mem_singleton.2 ⟨name, entry⟩⟩⟩
    · next message refused =>
      have start : ControlFree "store error: " := by decide +kernel
      have told := start.append (refusal message refused)
      exact List.forall_mem_append.2 ⟨own, List.forall_mem_singleton.2 (clean_failureEntry named told)⟩
    · exact own

/-- **No entry can be forged.** Whatever the document in memory is, and whatever a user sends as identifier, token or
data: all that linking and saving log is free of control characters, in its message and in its fields, and so is the
line in which it is shown. And if two identifiers are refused that differ once they are trimmed, what is told of them
differs. -/
theorem logs_clean_entries (tree : Tree) (user : Option String) (token data : String) :
    (∀ e ∈ (link Memory.interface user token tree).log, e.Clean ∧ ControlFree e.line) ∧
      (∀ e ∈ (save Memory.interface user data tree).log, e.Clean ∧ ControlFree e.line) ∧
      ∀ text other f g, UserId.check text = .error f → UserId.check other = .error g →
        trim text ≠ trim other → f.message ≠ g.message := by
  have linked : ∀ e ∈ (link Memory.interface user token tree).log, e.Clean :=
    clean_runPlanned cleanStore_memory (cleanPlan_planLink user token) (by decide +kernel) (by decide +kernel) _ tree
  have saved : ∀ e ∈ (save Memory.interface user data tree).log, e.Clean :=
    clean_runPlanned cleanStore_memory (cleanPlan_planSave user data) (by decide +kernel) (by decide +kernel) _ tree
  exact ⟨fun e he => ⟨linked e he, (linked e he).line⟩, fun e he => ⟨saved e he, (saved e he).line⟩,
    fun _ _ _ _ => UserId.message_ne_of_trim_ne⟩

/-- An identifier that holds a whole line of its own, and one that is written as the first one is quoted. -/
theorem line_break_stays_quoted :
    let user := " a.\nINFO progress saved"
    let other := "a.\\nINFO progress saved"
    let refused := failureEntry "GitHub link" (.invalidUser "a.\nINFO progress saved")
    let malformed := failureEntry "Progress save" (.malformedData
      "control character (\\u0000-\\u001F) found while parsing a string at line 2 column 0")
    refused ∈ (link Memory.interface (some user) "t" (.object [])).log ∧ refused.Clean ∧
      refused.line = "ERROR GitHub link error error=invalid user id: \"a.\\nINFO progress saved\"" ∧
      malformed ∈ (save Memory.interface (some "u") "\"\n\"" (.object [])).log ∧ malformed.Clean ∧
      ∃ f g, UserId.check user = .error f ∧ UserId.check other = .error g ∧ f.message ≠ g.message := by
  intro user other refused malformed
  obtain ⟨linked, -, differ⟩ := logs_clean_entries (.object []) (some user) "t" ""
  obtain ⟨-, saved, -⟩ := logs_clean_entries (.object []) (some "u") "t" "\"\n\""
  have first : refused ∈ (link Memory.interface (some user) "t" (.object [])).log := by decide +kernel
  have second : malformed ∈ (save Memory.interface (some "u") "\"\n\"" (.object [])).log := by decide +kernel
  have checked : UserId.check user = .error (.invalidUser "a.\nINFO progress saved") := by decide +kernel
  have checked' : UserId.check other = .error (.invalidUser "a.\\nINFO progress saved") := by decide +kernel
  refine ⟨first, (linked _ first).1, by decide +kernel, second, (saved _ second).1, _, _, checked, checked', ?_⟩
  exact differ _ _ _ _ checked checked' (by decide +kernel)

end Operations

end CodeGate
