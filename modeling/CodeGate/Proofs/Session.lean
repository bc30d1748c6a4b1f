import CodeGate.Session

/-!
# What a session answers

An event ends a session or lets it go on; for a text this depends on whether its answer can be sent. So a session
takes the events in front of the first one that ends it. It answers the texts among them, in their order, and
nothing that comes later; what it logs tells only of its end.

Section 6 of the specification has text frames echoed without the gate.
-/

namespace CodeGate.Session

/-- The texts among some events. -/
def texts (events : List Event) : List String :=
  events.filterMap fun
    | .text content => some content
    | _ => none

/-- How a session ends: nothing more comes in, or an event ends it. -/
inductive End where
  | exhausted
  | closed
  | binary
  | receiveFailed (reason : String)
  | sendFailed (reason : String)
  deriving DecidableEq, Repr

/-- The entries that tell of an end. -/
def End.errors : End → List Log.Entry
  | exhausted => []
  | closed => []
  | binary => [binaryEntry]
  | receiveFailed reason => [receiveEntry reason]
  | sendFailed reason => [sendEntry reason]

/-- The end that an event makes, if it does; `fault?` says why its answer cannot be sent. -/
def Event.end? (fault? : Option String) : Event → Option End
  | text _ => fault?.map .sendFailed
  | binary => some .binary
  | ping => none
  | pong => none
  | close => some .closed
  | receiveFailed reason => some (.receiveFailed reason)

/-- A session that has sent `sent` texts is still open behind some events: none of them ends it, when those in
front of it have been answered. -/
def Open (sendFault : Nat → Option String) (sent : Nat) (events : List Event) : Prop :=
  ∀ before e after, events = before ++ e :: after → e.end? (sendFault (sent + (texts before).length)) = none

/-- The course of a session over some events: those it took while it was open, and how it ended. -/
inductive Course (sendFault : Nat → Option String) (sent : Nat) : (events taken : List Event) → End → Prop where
  | exhausted {events : List Event} (isOpen : Open sendFault sent events) :
      Course sendFault sent events events .exhausted
  | ended {taken : List Event} {e : Event} {why : End} (isOpen : Open sendFault sent taken)
      (ends : e.end? (sendFault (sent + (texts taken).length)) = some why) (rest : List Event) :
      Course sendFault sent (taken ++ e :: rest) taken why

variable {sendFault : Nat → Option String} {sent : Nat} {events taken : List Event} {why : End} {e : Event}

/-! ## One event -/

theorem texts_append (first second : List Event) : texts (first ++ second) = texts first ++ texts second :=
  List.filterMap_append

theorem length_texts_cons (e : Event) (events : List Event) :
    (texts (e :: events)).length = (texts [e]).length + (texts events).length := by
  rw [← List.singleton_append, texts_append, List.length_append]

theorem open_nil : Open sendFault sent [] := by
  intro before e after split
  cases before <;> cases split

theorem open_cons_iff :
    Open sendFault sent (e :: events) ↔
      e.end? (sendFault sent) = none ∧ Open sendFault (sent + (texts [e]).length) events := by
  constructor
  · intro isOpen
    refine ⟨isOpen [] e events rfl, fun before x after split => ?_⟩
    have behind := isOpen (e :: before) x after (congrArg (e :: ·) split)
    rwa [length_texts_cons, ← Nat.add_assoc] at behind
  · rintro ⟨goesOn, behind⟩ before x after split
    cases before with
    | nil =>
      obtain ⟨rfl, rfl⟩ := List.cons.inj split
      exact goesOn
    | cons y before =>
      obtain ⟨rfl, rfl⟩ := List.cons.inj split
      rw [length_texts_cons, ← Nat.add_assoc]
      exact behind before x after rfl

/-- An event that lets the session go on is answered if it is a text. -/
theorem run_cons_of_goesOn (goesOn : e.end? (sendFault sent) = none) (events : List Event) :
    let rest := run sendFault (sent + (texts [e]).length) events
    run sendFault sent (e :: events) = ⟨(texts [e]).map echo ++ rest.sent, rest.log⟩ := by
  cases e with
  | text content =>
    have sends : sendFault sent = none := Option.map_eq_none_iff.1 goesOn
    simp only [run, sends]
    rfl
  | ping => rfl
  | pong => rfl
  | binary => cases goesOn
  | close => cases goesOn
  | receiveFailed reason => cases goesOn

/-- An event that ends the session is the last one that matters. -/
theorem run_cons_of_ends (ends : e.end? (sendFault sent) = some why) (events : List Event) :
    run sendFault sent (e :: events) = ⟨[], why.errors ++ [closedEntry]⟩ := by
  cases e with
  | text content =>
    obtain ⟨reason, fails, rfl⟩ := Option.map_eq_some_iff.1 ends
    simp only [run, fails]
    rfl
  | ping => cases ends
  | pong => cases ends
  | binary => cases ends; rfl
  | close => cases ends; rfl
  | receiveFailed reason => cases ends; rfl

/-- Events that are passed over are as good as none. -/
theorem run_filter (events : List Event) :
    run sendFault sent (events.filter fun e => e ≠ .ping ∧ e ≠ .pong) = run sendFault sent events := by
  induction events generalizing sent with
  | nil => rfl
  | cons e events ih =>
    cases e with
    | text content =>
      rw [List.filter_cons_of_pos (by simp)]
      simp only [run, ih]
    | ping => exact ih
    | pong => exact ih
    | binary => rfl
    | close => rfl
    | receiveFailed reason =>
      rw [List.filter_cons_of_pos (by simp)]
      rfl

/-! ## A whole session -/

/-- A session answers the events that it takes, and then goes on with the rest. -/
theorem run_append_of_open (isOpen : Open sendFault sent taken) (rest : List Event) :
    let behind := run sendFault (sent + (texts taken).length) rest
    run sendFault sent (taken ++ rest) = ⟨(texts taken).map echo ++ behind.sent, behind.log⟩ := by
  induction taken generalizing sent with
  | nil => rfl
  | cons e taken ih =>
    obtain ⟨goesOn, isOpen⟩ := open_cons_iff.1 isOpen
    have later := ih isOpen
    dsimp only at later ⊢
    rw [List.cons_append, run_cons_of_goesOn goesOn, later, ← List.singleton_append (l := taken), texts_append,
      List.map_append, List.append_assoc, List.length_append, Nat.add_assoc]

/-- What a session does is told by its course. -/
theorem Course.run (course : Course sendFault sent events taken why) :
    Session.run sendFault sent events = ⟨(texts taken).map echo, why.errors ++ [closedEntry]⟩ := by
  cases course with
  | exhausted isOpen =>
    have whole := run_append_of_open isOpen []
    dsimp only at whole
    rwa [List.append_nil, Session.run, List.append_nil] at whole
  | ended isOpen ends rest =>
    rw [run_append_of_open isOpen, run_cons_of_ends ends, List.append_nil]

theorem Course.cons (goesOn : e.end? (sendFault sent) = none)
    (course : Course sendFault (sent + (texts [e]).length) events taken why) :
    Course sendFault sent (e :: events) (e :: taken) why := by
  cases course with
  | exhausted isOpen => exact .exhausted (open_cons_iff.2 ⟨goesOn, isOpen⟩)
  | ended isOpen ends rest =>
    refine .ended (open_cons_iff.2 ⟨goesOn, isOpen⟩) ?_ rest
    rwa [length_texts_cons, ← Nat.add_assoc]

/-- Every session has a course. -/
theorem exists_course (sendFault : Nat → Option String) (sent : Nat) (events : List Event) :
    ∃ taken why, Course sendFault sent events taken why := by
  induction events generalizing sent with
  | nil => exact ⟨[], .exhausted, .exhausted open_nil⟩
  | cons e events ih =>
    cases ends : e.end? (sendFault sent) with
    | some why => exact ⟨[], why, .ended open_nil ends events⟩
    | none =>
      obtain ⟨taken, why, course⟩ := ih (sent + (texts [e]).length)
      exact ⟨e :: taken, why, course.cons ends⟩

/-- What comes in behind the end of a session does not matter. -/
theorem Course.append (course : Course sendFault sent events taken why) (ended : why ≠ .exhausted)
    (more : List Event) : Course sendFault sent (events ++ more) taken why := by
  cases course with
  | exhausted isOpen => exact absurd rfl ended
  | ended isOpen ends rest =>
    rw [List.append_assoc]
    exact .ended isOpen ends (rest ++ more)

theorem End.exists_error_iff (why : End) :
    (∃ entry ∈ why.errors ++ [closedEntry], entry.level = .error) ↔ why ≠ .exhausted ∧ why ≠ .closed := by
  cases why <;> simp [End.errors, closedEntry, binaryEntry, receiveEntry, sendEntry]

theorem End.count_closedEntry (why : End) : (why.errors ++ [closedEntry]).count closedEntry = 1 := by
  cases why <;> simp [End.errors, closedEntry, binaryEntry, receiveEntry, sendEntry]

/-- **A session answers every text up to its end, and nothing behind it.** Whatever comes in and wherever sending
fails, there is a first event that ends the session, or none. The texts in front of it are what was answered, each
once and in order, and whatever comes behind it changes nothing. An error is logged exactly if the end is neither
a close frame nor that nothing more comes in, and the entry for the closed session comes once, at the end. Pings
and pongs may as well be left out. -/
theorem texts_answered_until_end (sendFault : Nat → Option String) (sent : Nat) (events : List Event) :
    let transcript := run sendFault sent events
    (∃ taken why, Course sendFault sent events taken why) ∧
      (∀ taken why, Course sendFault sent events taken why →
        transcript.sent = (texts taken).map ("Message: " ++ ·) ∧
          transcript.log = why.errors ++ [{ level := .debug, message := "websocket session closed" }] ∧
          ((∃ entry ∈ transcript.log, entry.level = .error) ↔ why ≠ .exhausted ∧ why ≠ .closed) ∧
          transcript.log.count closedEntry = 1 ∧
          (why ≠ .exhausted → ∀ more, run sendFault sent (events ++ more) = transcript)) ∧
      run sendFault sent (events.filter fun e => e ≠ .ping ∧ e ≠ .pong) = transcript := by
  intro transcript
  refine ⟨exists_course sendFault sent events, fun taken why course => ?_, run_filter events⟩
  have ran : transcript = ⟨(texts taken).map echo, why.errors ++ [closedEntry]⟩ := course.run
  refine ⟨?_, ?_, ?_, ?_, fun ended more => ?_⟩
  · rw [ran]
    rfl
  · rw [ran]
    rfl
  · rw [ran]
    exact why.exists_error_iff
  · rw [ran]
    exact why.count_closedEntry
  · rw [ran]
    exact (course.append ended more).run

/-- Two texts are answered around a ping, and sending the third answer fails. -/
theorem third_answer_fails :
    let sendFault (n : Nat) : Option String := if n = 2 then some "broken pipe" else none
    let transcript := run sendFault 0 [.text "a", .ping, .text "<b>", .text "c", .text "d", .binary]
    transcript.sent = ["Message: a", "Message: <b>"] ∧
      transcript.log = [sendEntry "broken pipe", closedEntry] := by
  intro sendFault transcript
  have isOpen : Open sendFault 0 [.text "a", .ping, .text "<b>"] := by
    simp [open_cons_iff, open_nil, Event.end?, texts, sendFault]
  have course : Course sendFault 0 ([.text "a", .ping, .text "<b>"] ++ .text "c" :: [.text "d", .binary])
      [.text "a", .ping, .text "<b>"] (.sendFailed "broken pipe") := .ended isOpen rfl _
  obtain ⟨answered, logged, -⟩ := (texts_answered_until_end sendFault 0 _).2.1 _ _ course
  exact ⟨answered, logged⟩

end CodeGate.Session
