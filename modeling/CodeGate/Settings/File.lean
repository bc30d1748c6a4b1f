import CodeGate.Json.Reader
import CodeGate.Settings.Ini
import CodeGate.Settings.Json5
import CodeGate.Settings.Ron
import CodeGate.Settings.Toml.Document
import CodeGate.Settings.Yaml.Document

/-!
# Settings in files

The extension of a file's name says which format its text has. A file of any other extension is passed
over; one whose text is not of its format, or holds no table, cannot be loaded.

Follows `load_config` and files as sources of `config`; section 10.4 of the specification.
-/

namespace CodeGate.Settings

/-- The formats of files. -/
inductive Format where
  | toml
  | json
  | yaml
  | ini
  | ron
  | json5
  deriving DecidableEq, Repr

namespace Format

/-- The extension of a path: what is behind the last point of its last part, unless that part starts
with the point. -/
def extension? (path : String) : Option String :=
  let name := (path.toList.reverse.takeWhile (· ≠ '/')).reverse
  let extension := (name.reverse.takeWhile (· ≠ '.')).reverse
  if extension.length + 1 < name.length then some (String.ofList extension) else none

/-- The format of a file with a path; the case of its extension matters. -/
def ofPath? (path : String) : Option Format := do
  let extension ← extension? path
  [("toml", toml), ("json", json), ("yaml", yaml), ("yml", yaml), ("ini", ini), ("ron", ron),
    ("json5", json5)].lookup extension

mutual

/-- What a JSON value holds. An integer that does not fit 64 bits with a sign is taken as a float. -/
def ofJson : Json.Value → Content
  | .null => .scalar .null
  | .bool b => .scalar (.bool b)
  | .number (.integer n) =>
    .scalar (if Word.fitsSigned n then .integer n else .float (.finite (Binary64.ofNat n.toNat)))
  | .number (.float x) => .scalar (.float (.finite x))
  | .string s => .scalar (.text s)
  | .list vs => .list (ofJsonItems vs)
  | .object ms => .table (ofJsonMembers ms)

/-- What the items of a JSON list hold. -/
def ofJsonItems : List Json.Value → List Content
  | [] => []
  | v :: vs => ofJson v :: ofJsonItems vs

/-- What the members of a JSON object hold. -/
def ofJsonMembers : List (String × Json.Value) → List (String × Content)
  | [] => []
  | (k, v) :: ms => (k, ofJson v) :: ofJsonMembers ms

end

/-- The content of a text in a format. -/
def read? (format : Format) (text : String) : Option Content :=
  match format with
  | toml => (Toml.read? text).map .table
  | json => (Json.read text).toOption.map ofJson
  | yaml => Yaml.read? text
  | ini => Ini.read? text
  | ron => Ron.read? text
  | json5 => Json5.read? text

end Format

/-- A text without the mark that says how the text of a file is encoded. -/
def unmarked (text : String) : String :=
  match text.toList with
  | '\uFEFF' :: cs => String.ofList cs
  | _ => text

/-- The settings in the text of a file, if it can be loaded. -/
def fileSettings? (path text : String) : Option Source :=
  match Format.ofPath? path with
  | none => some []
  | some format =>
    match format.read? (unmarked text) with
    | some (.table ms) => some (Tree.ofMembers (.file path) ms)
    | _ => none

end CodeGate.Settings
