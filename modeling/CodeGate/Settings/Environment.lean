import CodeGate.Settings.Tree

/-!
# Settings in environment variables

A variable whose name starts with the name of the program and two underscores is a setting; two
underscores further on separate the keys of its path. The case of names does not matter.

Follows `load_config` and the environment as a source of `config`; section 10.4 of the specification.
-/

namespace CodeGate.Settings

/-- The variables of an environment. -/
abbrev Environment := List (String × String)

namespace Environment

/-- The value of a variable. -/
def value? (env : Environment) (name : String) : Option String :=
  if name = "" then none else env.lookup name

/-- The variable in an entry: an equals sign parts its name from its value. The name is not empty. -/
def entry? (text : List Char) : Option (String × String) :=
  match text with
  | [] => none
  | c :: cs =>
    let name := c :: cs.takeWhile (· ≠ '=')
    match text.drop name.length with
    | _ :: value => some (String.ofList name, String.ofList value)
    | [] => none

/-- The environment in a block of entries, each of which ends in a null character. -/
def ofBlock (text : String) : Environment :=
  (text.toList.splitOn '\x00').filterMap entry?

/-- How the names of settings start, in lower case. -/
def marker : List Char := "codeviz__".toList

/-- A name with each pair of underscores written as a point. -/
def pointed : List Char → List Char
  | '_' :: '_' :: cs => '.' :: pointed cs
  | c :: cs => c :: pointed cs
  | [] => []

/-- The key that the name of a variable stands for. -/
def keyOf? (name : String) : Option String :=
  let cs := (Text.lower name).toList
  if marker.isPrefixOf cs then some (String.ofList (pointed (cs.drop marker.length))) else none

/-- The settings in an environment. -/
def settings (env : Environment) : Source :=
  env.filterMap fun (name, value) =>
    (keyOf? name).map fun key => (key, .scalar (some .environment) (.text value))

end Environment

end CodeGate.Settings
