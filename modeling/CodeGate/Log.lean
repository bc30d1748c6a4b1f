import CodeGate.Text.Quoted

/-!
# Log entries

What the gateway has to say while it works: entries with a level, a message and named fields. Shown as a
line, an entry has its fields behind the message.

Follows section 10.2 of the specification, and the compact format of `tracing-subscriber`.
-/

namespace CodeGate.Log

/-- How much an entry matters. -/
inductive Level where
  | error
  | warn
  | info
  | debug
  | trace
  deriving DecidableEq, Repr

/-- The rank of a level: the more entries it lets through, the greater. -/
def Level.rank : Level → Nat
  | error => 1
  | warn => 2
  | info => 3
  | debug => 4
  | trace => 5

/-- The name of a level. -/
def Level.name : Level → String
  | error => "ERROR"
  | warn => "WARN"
  | info => "INFO"
  | debug => "DEBUG"
  | trace => "TRACE"

/-- An entry: its level, its message and its named fields, some of which are quoted in a line. -/
structure Entry where
  level : Level
  message : String
  fields : List (String × String) := []
  quotedFields : List String := []
  deriving DecidableEq, Repr

/-- The entry as a line: the level, the message and the fields in their order. -/
def Entry.line (e : Entry) : String :=
  let shown (field : String × String) : String :=
    if e.quotedFields.contains field.1 then Text.quoted field.2 else field.2
  e.level.name ++ " " ++ e.message ++ String.join (e.fields.map fun f => " " ++ f.1 ++ "=" ++ shown f)

end CodeGate.Log
