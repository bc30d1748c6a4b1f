import CodeGate.Log

/-!
# The echo session

A session answers each text frame with the same text behind a few words. Pings and pongs are passed
over. It ends at a close frame, at a binary frame, when receiving fails and when sending fails; only the
first of these is no error.

Follows `echo` and `ws_echo`; section 6 of the specification.
-/

namespace CodeGate.Session

/-- What comes in: a frame, or the failure to receive one. -/
inductive Event where
  | text (content : String)
  | binary
  | ping
  | pong
  | close
  | receiveFailed (reason : String)
  deriving DecidableEq, Repr

/-- The answer to a text frame. -/
def echo (text : String) : String := "Message: " ++ text

/-- What a session did: the texts it sent, and what it logged. -/
structure Transcript where
  sent : List String
  log : List Log.Entry
  deriving DecidableEq, Repr

/-- The entry that ends the log of a session. -/
def closedEntry : Log.Entry := { level := .debug, message := "websocket session closed" }

/-- The entry for a binary frame. -/
def binaryEntry : Log.Entry := { level := .error, message := "WebSocket: expected a text frame" }

/-- The entry for a failure to receive. -/
def receiveEntry (reason : String) : Log.Entry :=
  { level := .error, message := "WebSocket receive failed", fields := [("error", reason)] }

/-- The entry for a failure to send. -/
def sendEntry (reason : String) : Log.Entry :=
  { level := .error, message := "WebSocket send failed", fields := [("error", reason)] }

/-- Runs a session over the events that come in. `sendFault n` says why sending fails once `n` texts
have been sent, if it does; `sent` texts have been sent before. -/
def run (sendFault : Nat → Option String) (sent : Nat) : List Event → Transcript
  | [] => ⟨[], [closedEntry]⟩
  | .text content :: events =>
    match sendFault sent with
    | some reason => ⟨[], [sendEntry reason, closedEntry]⟩
    | none =>
      let rest := run sendFault (sent + 1) events
      ⟨echo content :: rest.sent, rest.log⟩
  | .binary :: _ => ⟨[], [binaryEntry, closedEntry]⟩
  | .close :: _ => ⟨[], [closedEntry]⟩
  | .receiveFailed reason :: _ => ⟨[], [receiveEntry reason, closedEntry]⟩
  | .ping :: events => run sendFault sent events
  | .pong :: events => run sendFault sent events

end CodeGate.Session
