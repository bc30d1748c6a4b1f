import CodeGate.Json.Record
import CodeGate.Operations

/-!
# The records on the wire

What is written and read between the gateway, its clients and its settings: each record with the shape
it is read by and the text it is written as, its slots always in the same order.

Follows `ExecutePayload`, `ExecuteResponse`, `DetailResponse`, `ErrorBody`, `ExecutionResult` and
`FirebaseConfig`; sections 3 and 11 of the specification.
-/

namespace CodeGate.Wire

open CodeGate.Json

/-- Code to run and its language. -/
structure ExecutePayload where
  code : String
  lang : String
  deriving DecidableEq, Repr

/-- The answer to code that ran; its variables are an object. -/
structure ExecuteResponse where
  trace : List String
  bindings : Members
  deriving DecidableEq

/-- The answer of a section that is not there yet. -/
structure DetailResponse where
  detail : String
  deriving DecidableEq, Repr

/-- The body of an answer that tells of a failure. -/
structure ErrorBody where
  code : String
  message : String
  deriving DecidableEq, Repr

/-- The settings of the remote database. -/
structure RemoteConfig where
  databaseUrl : String
  authToken : Option String := none
  timeoutMs : Nat := 10000
  deriving DecidableEq, Repr

/-- The answer to running nothing. -/
def ExecuteResponse.empty : ExecuteResponse := ⟨[], []⟩

/-- A slot for a string. -/
def textSlot {α : Type} (name : String) (put : String → α → α) : Slot α :=
  ⟨name, true, fun _ s => (text s).map (·.map put)⟩

/-- A slot for a list of strings. -/
def textsSlot {α : Type} (name : String) (put : List String → α → α) : Slot α :=
  ⟨name, true, fun depth s => (listOf (fun _ => text) depth s).map (·.map put)⟩

/-- A slot for an object with any members. -/
def objectSlot {α : Type} (name : String) (put : Members → α → α) : Slot α :=
  ⟨name, true, fun depth s => (Json.object depth s).map (·.map put)⟩

/-- A slot that may be left out, for a string or null. -/
def optionalTextSlot {α : Type} (name : String) (put : Option String → α → α) : Slot α :=
  ⟨name, false, fun _ s => (orNull text s).map (·.map put)⟩

/-- A slot that may be left out, for an integer without a sign. -/
def optionalNaturalSlot {α : Type} (name : String) (put : Nat → α → α) : Slot α :=
  ⟨name, false, fun _ s => (natural64 s).map (·.map put)⟩

/-- The text of a record: its slots and their values in their order. -/
def recordText (slots : List (String × Value)) : String :=
  String.ofList (Value.object slots).chars

/-- A list of strings as a value. -/
def texts (ts : List String) : Value := .list (ts.map Value.string)

namespace ExecutePayload

/-- The shape of code to run. -/
def shape : Shape ExecutePayload where
  title := "ExecutePayload"
  slots := [textSlot "code" fun v p => { p with code := v }, textSlot "lang" fun v p => { p with lang := v }]
  blank := ⟨"", ""⟩

/-- The text of code to run. -/
def write (p : ExecutePayload) : String :=
  recordText [("code", .string p.code), ("lang", .string p.lang)]

end ExecutePayload

namespace ExecuteResponse

/-- The shape of the answer to code that ran. -/
def shape : Shape ExecuteResponse where
  title := "ExecuteResponse"
  slots := [textsSlot "trace" fun v r => { r with trace := v },
    objectSlot "variables" fun v r => { r with bindings := v }]
  blank := ⟨[], []⟩

/-- The text of the answer to code that ran. -/
def write (r : ExecuteResponse) : String :=
  recordText [("trace", texts r.trace), ("variables", .object r.bindings)]

end ExecuteResponse

namespace DetailResponse

/-- The shape of the answer of a section. -/
def shape : Shape DetailResponse where
  title := "DetailResponse"
  slots := [textSlot "detail" fun v _ => ⟨v⟩]
  blank := ⟨""⟩

/-- The text of the answer of a section. -/
def write (r : DetailResponse) : String :=
  recordText [("detail", .string r.detail)]

end DetailResponse

namespace ErrorBody

/-- The shape of the body for a failure. -/
def shape : Shape ErrorBody where
  title := "ErrorBody"
  slots := [textSlot "code" fun v b => { b with code := v }, textSlot "message" fun v b => { b with message := v }]
  blank := ⟨"", ""⟩

/-- The text of the body for a failure. -/
def write (b : ErrorBody) : String :=
  recordText [("code", .string b.code), ("message", .string b.message)]

end ErrorBody

/-- The shape of the result of running code. -/
def executionResultShape : Shape ExecutionResult where
  title := "ExecutionResult"
  slots := [textsSlot "trace" fun v r => { r with trace := v },
    textSlot "variables" fun v r => { r with bindings := v }]
  blank := ⟨[], ""⟩

/-- The text of the result of running code. -/
def writeExecutionResult (r : ExecutionResult) : String :=
  recordText [("trace", texts r.trace), ("variables", .string r.bindings)]

namespace RemoteConfig

/-- The shape of the settings of the remote database: only its address has to be given. -/
def shape : Shape RemoteConfig where
  title := "FirebaseConfig"
  slots := [textSlot "database_url" fun v c => { c with databaseUrl := v },
    optionalTextSlot "auth_token" fun v c => { c with authToken := v },
    optionalNaturalSlot "timeout_ms" fun v c => { c with timeoutMs := v }]
  blank := { databaseUrl := "" }

/-- The text of the settings of the remote database. -/
def write (c : RemoteConfig) : String :=
  recordText [("database_url", .string c.databaseUrl),
    ("auth_token", (c.authToken.map Value.string).getD .null),
    ("timeout_ms", .number (.integer c.timeoutMs))]

end RemoteConfig

/-- The record that a whole text stands for, or what is wrong with the text, in words. -/
def readText {α : Type} (shape : Shape α) (text : String) : Except String α :=
  let glyphs := Text.Glyph.ofString text
  match shape.readWhole glyphs with
  | .ok record => .ok record
  | .error fault => .error (fault.message glyphs)

end CodeGate.Wire
