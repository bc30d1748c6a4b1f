import CodeGate.Json.Printer
import CodeGate.Settings.Tree
import CodeGate.Text.Quoted
import CodeGate.Word

/-!
# The settings of the program

The tree of all sources is read into the settings that the program knows, in two sections. Every setting
may be missing or null, and unknown ones are passed over. A value of another kind is turned into the
kind that is asked for where that makes sense.

Follows `AppConfig`, `ServeSection` and `FirebaseSection`, read as `config` reads them; section 10.4 of the
specification.
-/

namespace CodeGate.Settings

/-- Where data is kept. -/
inductive Backend where
  | ephemeral
  | firebase
  deriving DecidableEq, Repr

/-- The word for a backend in settings and on the command line. -/
def Backend.word : Backend → String
  | ephemeral => "ephemeral"
  | firebase => "firebase"

/-- The name of a backend in the log. -/
def Backend.title : Backend → String
  | ephemeral => "Ephemeral"
  | firebase => "Firebase"

/-- The backend with a word. -/
def Backend.ofWord? (word : String) : Option Backend :=
  [ephemeral, firebase].find? (·.word = word)

/-- What to serve with, and where to listen. -/
structure ServeSettings where
  backend : Option Backend := none
  addr : Option String := none
  deriving DecidableEq, Repr

/-- Where the remote database is, which variable holds its token, and how long a request may take. -/
structure RemoteSettings where
  databaseUrl : Option String := none
  authTokenEnv : Option String := none
  timeoutMs : Option Nat := none
  deriving DecidableEq, Repr

/-- All settings. -/
structure AppSettings where
  serve : Option ServeSettings := none
  firebase : Option RemoteSettings := none
  deriving DecidableEq, Repr

/-- What stands in a tree where something else was expected. -/
inductive Found where
  | text (value : String)
  | bool (value : Bool)
  | integer (value : Int)
  | signedInteger (value : Int)
  | float (value : Fractional)
  | sequence
  | map
  deriving DecidableEq, Repr

/-- The digits of a number, with a point among them. -/
def pointText (x : Fractional) : String :=
  match x with
  | .finite _ => if x.text.toList.contains '.' then x.text else x.text ++ ".0"
  | _ => x.text

/-- The words for what was found. -/
def Found.words : Found → String
  | text s => "string " ++ Text.quoted s
  | bool b => "boolean `" ++ (if b then "true" else "false") ++ "`"
  | integer n => "integer `" ++ String.ofList (Json.integerText n) ++ "`"
  | signedInteger n => "64-bit integer `" ++ String.ofList (Json.integerText n) ++ "`"
  | float x => "floating point `" ++ pointText x ++ "`"
  | sequence => "sequence"
  | map => "map"

/-- Why a tree is not the settings of the program. -/
inductive Fault where
  | unknownBackend (word : String)
  | noBackend
  | wrongValue (found : Found) (expected : String) (key : String) (origin : Option Origin)
  | wrongSection (found : Found) (expected : String)
  | shortSection (count : Nat) (expected : String)
  deriving DecidableEq, Repr

/-- The words for an origin. -/
def Origin.words : Origin → String
  | environment => "the environment"
  | file path => path

/-- The fault in words. -/
def Fault.message : Fault → String
  | unknownBackend word => "enum Backend does not have variant constructor " ++ word
  | noBackend =>
    "value of enum Backend should be represented by either string or table with exactly one key"
  | wrongValue found expected key origin =>
    "invalid type: " ++ found.words ++ ", expected " ++ expected ++ " for key `" ++ key ++ "`" ++
      (match origin with
        | some origin => " in " ++ origin.words
        | none => "")
  | wrongSection found expected => "invalid type: " ++ found.words ++ ", expected " ++ expected
  | shortSection count expected => "invalid length " ++ toString count ++ ", expected " ++ expected

/-- A setting, unless it is null. -/
def ifGiven {α : Type} (read : Tree → Except Fault α) : Tree → Except Fault (Option α)
  | .scalar _ .null => .ok none
  | t => (read t).map some

/-- The backend that a word names, in any case. -/
def backendOf (word : String) : Except Fault Backend :=
  match Backend.ofWord? (Text.lower word) with
  | some backend => .ok backend
  | none => .error (.unknownBackend word)

/-- A backend: a word, or a table whose only key is the word. -/
def readBackend : Tree → Except Fault Backend
  | .scalar _ (.text word) => backendOf word
  | .table _ [(word, _)] => backendOf word
  | _ => .error .noBackend

/-- A text at a key; numbers and truth values are texts too. -/
def readText (key : String) : Tree → Except Fault String
  | .scalar _ (.text s) => .ok s
  | .scalar _ (.bool b) => .ok (if b then "true" else "false")
  | .scalar _ (.integer n) => .ok (String.ofList (Json.integerText n))
  | .scalar _ (.float x) => .ok x.text
  | .scalar _ .null => .ok ""
  | .list origin _ => .error (.wrongValue .sequence "a string" key origin)
  | .table origin _ => .error (.wrongValue .map "a string" key origin)

/-- The greatest integer of 64 bits without a sign. -/
def greatest64 : Nat := Word.count - 1

/-- The nearest integer of 64 bits without a sign; a half goes away from zero. -/
def roundedNatural : Fractional → Nat
  | .finite x =>
    if x.negative then 0
    else
      let (n, d) := x.magnitude
      min ((2 * n + d) / (2 * d)) greatest64
  | .infinite negative => if negative then 0 else greatest64
  | .undefined => 0

/-- The integer in a text: a word for yes or no, or digits. -/
def naturalOfText? (s : String) : Option Nat :=
  let lower := Text.lower s
  if lower = "true" ∨ lower = "on" ∨ lower = "yes" then some 1
  else if lower = "false" ∨ lower = "off" ∨ lower = "no" then some 0
  else
    let digits := match s.toList with
      | '+' :: cs => cs
      | cs => cs
    if digits ≠ [] ∧ digits.all Char.isDigit then
      let n := digits.foldl (fun n c => n * 10 + (c.toNat - 48)) 0
      if n ≤ greatest64 then some n else none
    else none

/-- An integer of 64 bits without a sign at a key. -/
def readNatural (key : String) : Tree → Except Fault Nat
  | .scalar origin (.text s) =>
    match naturalOfText? s with
    | some n => .ok n
    | none => .error (.wrongValue (.text s) "an integer" key origin)
  | .scalar _ (.bool b) => .ok (if b then 1 else 0)
  | .scalar origin (.integer n) =>
    if n < 0 then
      .error (.wrongValue (.signedInteger n) "an unsigned 64 bit or less integer" key origin)
    else .ok n.toNat
  | .scalar _ (.float x) => .ok (roundedNatural x)
  | .scalar _ .null => .ok 0
  | .list origin _ => .error (.wrongValue .sequence "an integer" key origin)
  | .table origin _ => .error (.wrongValue .map "an integer" key origin)

/-- How the settings of a section are looked up, by their position and their name: each comes with the
key that it is told by if it is wrong. -/
abbrev Lookup := (index : Nat) → (name : String) → Except Fault (Option (String × Tree))

/-- A setting of a section, if it is there. -/
def Lookup.read {α : Type} (lookup : Lookup) (index : Nat) (name : String)
    (read : String → Tree → Except Fault α) : Except Fault (Option α) := do
  match ← lookup index name with
  | none => pure none
  | some (key, t) => ifGiven (read key) t

/-- The settings of a section: a table with their names, or a list of all of them in their order. -/
def sectionLookup (name title : String) (count : Nat) : Tree → Except Fault Lookup
  | .table _ ms => .ok fun _ key => .ok ((Table.get? key ms).map fun t => (name ++ "." ++ key, t))
  | .list _ items => .ok fun index _ =>
    match items[index]? with
    | some t => .ok (some (name ++ "[" ++ toString index ++ "]", t))
    | none =>
      .error (.shortSection items.length ("struct " ++ title ++ " with " ++ toString count ++ " elements"))
  | .scalar _ value =>
    let found : Found := match value with
      | .text s => .text s
      | .bool b => .bool b
      | .integer n => .integer n
      | .float x => .float x
      | .null => .map
    .error (.wrongSection found ("struct " ++ title))

/-- The section that says what to serve with. -/
def readServe (t : Tree) : Except Fault ServeSettings := do
  let lookup ← sectionLookup "serve" "ServeSection" 2 t
  let backend ← lookup.read 0 "backend" fun _ => readBackend
  let addr ← lookup.read 1 "addr" readText
  pure { backend, addr }

/-- The section on the remote database. -/
def readRemote (t : Tree) : Except Fault RemoteSettings := do
  let lookup ← sectionLookup "firebase" "FirebaseSection" 3 t
  let databaseUrl ← lookup.read 0 "database_url" readText
  let authTokenEnv ← lookup.read 1 "auth_token_env" readText
  let timeoutMs ← lookup.read 2 "timeout_ms" readNatural
  pure { databaseUrl, authTokenEnv, timeoutMs }

/-- The settings in a tree. -/
def decode (root : Tree) : Except Fault AppSettings := do
  let serve ← match Table.get? "serve" root.members with
    | none => pure none
    | some t => ifGiven readServe t
  let firebase ← match Table.get? "firebase" root.members with
    | none => pure none
    | some t => ifGiven readRemote t
  pure { serve, firebase }

end CodeGate.Settings
