import CodeGate.GraphQL.Execution
import CodeGate.Proofs.Operations.Calls

/-!
# What an operation logs

An operation logs behind whatever its store logs: one error entry if it fails, none if it succeeds. A store that
breaks down takes the operation with it before anything is logged. On a thread of its own, which is where a mutation
has links and saves run, the operation then ends in a failure like any other, and this is the one failure that no
entry tells of.

Section 7 of the specification has every unexpected failure logged.
-/

namespace CodeGate

open CodeGate.Store

/-- How an operation ended that reaches no store. -/
def Ending.ofExcept {α : Type} : Except Failure α → Ending α
  | .ok result => .ok result
  | .error failure => .failed failure

/-- How an operation ended, whatever its result was. -/
def Ending.forget {α : Type} : Ending α → Ending Unit
  | .ok _ => .ok ()
  | .failed failure => .failed failure
  | .broke => .broke

namespace Operations

/-! ## Calls that run -/

section Calls

variable {σ : Type} (store : Interface σ) (state : σ)

/-- Runs a call: how it ended, what was logged, and the state of the store. -/
def Call.run : Call → Run σ Unit
  | .execute code lang =>
    let executed := Operations.execute code lang
    ⟨(Ending.ofExcept executed.1).forget, executed.2, state⟩
  | .explain code =>
    let explained := Operations.explain code
    ⟨(Ending.ofExcept explained.1).forget, explained.2, state⟩
  | .link user token =>
    let run := Operations.link store user token state
    ⟨run.ending.forget, run.log, run.state⟩
  | .save user data =>
    let run := Operations.save store user data state
    ⟨run.ending.forget, run.log, run.state⟩

/-- The write of a plan whose checks passed. -/
def writeOf? (plan : Except Failure Planned) : Option Write := plan.toOption.map (·.call)

/-- The write that a call makes; running and explaining code make none. -/
def Call.write? : Call → Option Write
  | .link user token => writeOf? (planLink user token)
  | .save user data => writeOf? (planSave user data)
  | _ => none

/-- What the store itself logs over a write. -/
def storeLog : Option Write → List Log.Entry
  | some w => (store.write w state).log
  | none => []

/-- The store breaks down over a write. -/
def BreaksOver (w? : Option Write) : Prop := ∃ w, w? = some w ∧ (store.write w state).answer = .broke

end Calls

/-! ## Entries -/

/-- Entries without an error. -/
def Untroubled (entries : List Log.Entry) : Prop := ∀ e ∈ entries, e.level ≠ .error

/-- A single entry, which is an error. -/
def OneError (entries : List Log.Entry) : Prop := ∃ e, entries = [e] ∧ e.level = .error

theorem untroubled_singleton {e : Log.Entry} (h : e.level ≠ .error) : Untroubled [e] :=
  List.forall_mem_singleton.2 h

theorem oneError_failureEntry (label : String) (f : Failure) : OneError [failureEntry label f] := by
  refine ⟨_, rfl, ?_⟩
  cases f <;> rfl

/-- The entries that an operation adds of its own, judged by how it ended. -/
inductive Logs {α : Type} : Ending α → List Log.Entry → Prop where
  | ok {result : α} {own : List Log.Entry} (untroubled : Untroubled own) : Logs (.ok result) own
  | failed {f : Failure} {own : List Log.Entry} (one : OneError own) : Logs (.failed f) own
  | broke : Logs .broke []

/-- A run that may make a write: it logs behind its store, and it breaks down if the store does. -/
def Logged {σ α : Type} (store : Interface σ) (state : σ) (w? : Option Write) (run : Run σ α) : Prop :=
  ∃ own, run.log = storeLog store state w? ++ own ∧ Logs run.ending own ∧
    (run.ending = .broke ↔ BreaksOver store state w?)

variable {σ α : Type} {store : Interface σ} {state : σ}

/-- An operation that makes one write logs once, at the end of whichever way it takes. -/
theorem logged_runPlanned (label success result : String) (plan : Except Failure Planned) :
    Logged store state (writeOf? plan) (runPlanned store label success result plan state) := by
  cases plan with
  | error f =>
    refine ⟨_, rfl, .failed (oneError_failureEntry label f), ?_⟩
    simp [runPlanned, BreaksOver, writeOf?, Except.toOption]
  | ok planned =>
    have breaks : BreaksOver store state (writeOf? (.ok planned)) ↔
        (store.write planned.call state).answer = .broke := by
      simp only [BreaksOver, writeOf?, Except.toOption, Option.map_some, Option.some.injEq, exists_eq_left']
    unfold Logged
    rw [breaks, runPlanned]
    cases (store.write planned.call state).answer with
    | done => exact ⟨_, rfl, .ok (untroubled_singleton (by simp)), by simp⟩
    | refused message => exact ⟨_, rfl, .failed (oneError_failureEntry label _), by simp⟩
    | broke => exact ⟨[], (List.append_nil _).symm, .broke, by simp⟩

theorem Logs.forget {ending : Ending α} {own : List Log.Entry} (h : Logs ending own) : Logs ending.forget own := by
  cases h with
  | ok untroubled => exact .ok untroubled
  | failed one => exact .failed one
  | broke => exact .broke

theorem Logged.forget {w? : Option Write} {run : Run σ α} (h : Logged store state w? run) :
    Logged store state w? (⟨run.ending.forget, run.log, run.state⟩ : Run σ Unit) := by
  obtain ⟨own, log, logs, breaks⟩ := h
  refine ⟨own, log, logs.forget, Iff.trans ?_ breaks⟩
  cases run.ending <;> simp [Ending.forget]

/-- An operation that reaches no store. -/
theorem logged_ofExcept (store : Interface σ) (state : σ) {result : Except Failure α} {log : List Log.Entry}
    (logs : Logs (.ofExcept result) log) :
    Logged store state none (⟨(Ending.ofExcept result).forget, log, state⟩ : Run σ Unit) := by
  refine ⟨log, rfl, logs.forget, fun broke => ?_, nofun⟩
  cases result <;> cases broke

theorem logs_execute (code lang : String) :
    Logs (.ofExcept (execute code lang).1) (execute code lang).2 := by
  rw [execute]
  cases Gate.pass code with
  | ok admitted => exact .ok (untroubled_singleton nofun)
  | error refusal => exact .failed (oneError_failureEntry "Execution" (.tooLong refusal))

theorem logs_explain (code : String) : Logs (.ofExcept (explain code).1) (explain code).2 := by
  rw [explain]
  cases Gate.pass code with
  | ok admitted => exact .ok nofun
  | error refusal => exact .failed (oneError_failureEntry "Explanation" (.tooLong refusal))

theorem logged_link (store : Interface σ) (state : σ) (user : Option String) (token : String) :
    Logged store state (writeOf? (planLink user token)) (link store user token state) := by
  rw [link]
  exact logged_runPlanned ..

theorem logged_save (store : Interface σ) (state : σ) (user : Option String) (data : String) :
    Logged store state (writeOf? (planSave user data)) (save store user data state) := by
  rw [save]
  exact logged_runPlanned ..

/-- Every call logs behind its store. -/
theorem Call.logged (store : Interface σ) (state : σ) (call : Call) :
    Logged store state call.write? (call.run store state) := by
  cases call with
  | execute code lang =>
    simp only [Call.run, Call.write?]
    exact logged_ofExcept store state (logs_execute code lang)
  | explain code =>
    simp only [Call.run, Call.write?]
    exact logged_ofExcept store state (logs_explain code)
  | link user token => exact (logged_link store state user token).forget
  | save user data => exact (logged_save store state user data).forget

/-- **A failure is logged once, unless it is a breakdown.** Whatever the store, the user and the input: behind what
the store logs itself, a call that succeeds adds no error, and one that fails adds one entry, an error. On a
thread of its own, whatever words the runtime has for a breakdown, a call that ends in an error adds this entry if
and only if the store did not break down; over a store that breaks down it adds nothing. -/
theorem failure_logged_unless_broken (store : Interface σ) (state : σ) (call : Call) (words : String) :
    let run := call.run store state
    ∃ own, run.log = storeLog store state call.write? ++ own ∧
      (run.ending = .ok () → Untroubled own) ∧ (∀ f, run.ending = .failed f → OneError own) ∧
      (contained run.ending words = .ok () → Untroubled own) ∧
      (∀ f, contained run.ending words = .error f → (OneError own ↔ ¬BreaksOver store state call.write?)) ∧
      (BreaksOver store state call.write? → contained run.ending words = .error (.internal words) ∧ own = []) := by
  intro run
  obtain ⟨own, log, logs, breaks⟩ := call.logged store state
  change run.log = _ at log
  change Logs run.ending own at logs
  change run.ending = .broke ↔ _ at breaks
  refine ⟨own, log, ?_⟩
  rw [← breaks]
  generalize run.ending = ending at logs
  cases logs with
  | ok untroubled => exact ⟨fun _ => untroubled, nofun, fun _ => untroubled, nofun, nofun⟩
  | failed one => exact ⟨nofun, fun _ _ => one, nofun, fun _ _ => ⟨fun _ => nofun, fun _ => one⟩, nofun⟩
  | broke =>
    refine ⟨nofun, nofun, nofun, fun _ _ => ⟨?_, fun sound => absurd rfl sound⟩, fun _ => ⟨rfl, rfl⟩⟩
    rintro ⟨e, none, -⟩
    cases none

/-- A link that the store refuses. -/
theorem refusal_logged_once :
    let store := recorder (.refused "connection reset")
    let run := (Call.link (some "u1") "t").run store []
    run.ending = .failed (.store "connection reset") ∧ OneError run.log := by
  intro store run
  obtain ⟨own, log, -, failed, -⟩ := failure_logged_unless_broken store [] (.link (some "u1") "t") ""
  have ending : run.ending = .failed (.store "connection reset") := by decide
  have silent : storeLog store [] (Call.link (some "u1") "t").write? = [] := by decide
  change run.log = _ at log
  rw [silent, List.nil_append] at log
  exact ⟨ending, log ▸ failed _ ending⟩

/-- A link over a store that breaks down ends in an error on a thread of its own, and nothing is logged. The client
that asked for it is told of an internal error, and this is all that is left of it. -/
theorem breakdown_not_logged :
    let run := (Call.link (some "u1") "t").run (recorder .broke) []
    let q : GraphQL.Request := { query := "mutation \x7b linkGithub(token: \"t\") \x7d" }
    let served := GraphQL.serve (recorder .broke) (some "u1") q []
    (∀ words, contained run.ending words = .error (.internal words)) ∧ run.log = [] ∧
      served.response.errors = [⟨"Internal error", some ⟨1, 12⟩, ["linkGithub"], some .internal⟩] ∧
      served.log = [] := by
  intro run q served
  have broke : run.ending = .broke := by decide
  refine ⟨fun words => ?_, by decide, by decide +kernel, by decide +kernel⟩
  rw [broke, contained]

end Operations

end CodeGate
