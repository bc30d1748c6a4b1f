import CodeGate.Settings.Environment

/-!
# Paths below the home directory

A path that is `~`, or starts with `~/`, is meant from the home directory on. Every other path is meant
as it is written.

Follows `expand_path` and `home_dir`.
-/

namespace CodeGate.Settings

/-- The home directory, as the environment tells it. -/
def homeOf (env : Environment) : Option String :=
  (env.value? "HOME").or (env.value? "USERPROFILE")

/-- A path from a directory on. A path that starts with a slash stays as it is. -/
def joinPath (directory path : List Char) : List Char :=
  if path.head? = some '/' then path
  else if directory = [] ∨ directory.getLast? = some '/' then directory ++ path
  else directory ++ '/' :: path

/-- A path with the home directory in the place of a tilde at its front. Without a home directory the
tilde stays alone or goes away. -/
def fromHome (env : Environment) (path : String) : String :=
  match path.toList with
  | ['~'] => (homeOf env).getD path
  | '~' :: '/' :: rest =>
    match homeOf env with
    | some home => String.ofList (joinPath home.toList rest)
    | none => String.ofList rest
  | _ => path

end CodeGate.Settings
