import CodeGate.Log
import CodeGate.Settings.Decode
import CodeGate.Settings.File
import CodeGate.Settings.HomePath

/-!
# Loading the settings

The environment is written into the tree first and the file over it, so that the file wins key by key.

Follows `load_config`; section 10.4 of the specification. Where there is no file at a path, files with an
extension behind it are looked for as well; that search is left out.
-/

namespace CodeGate.Settings

/-- The files that there are: the text at a path. -/
abbrev Files := String → Option String

/-- Why there are no settings. -/
inductive LoadFault where
  | unloadable
  | unfit (fault : Fault)
  deriving DecidableEq, Repr

/-- The fault in words. -/
def LoadFault.message : LoadFault → String
  | unloadable => "config load error"
  | unfit fault => "config parse error: " ++ fault.message

/-- The entry for a file that is not there. -/
def missingFileEntry (path : String) : Log.Entry where
  level := .warn
  message := "config file not found; continuing with defaults and env overrides"
  fields := [("path", path)]
  quotedFields := ["path"]

/-- The settings in the file at a path, and what is logged if it is not there. -/
def fileSource (files : Files) (path : String) : Option Source × List Log.Entry :=
  match files path with
  | none => (some [], [missingFileEntry path])
  | some text => (fileSettings? path text, [])

/-- The settings of the environment with those of a file over them. -/
def combine (env : Environment) (file : Source) : Tree :=
  file.writeTo (env.settings.writeTo Tree.empty)

/-- The settings of an environment and of the file at a path, if one is given, and what is logged. -/
def load (env : Environment) (files : Files) (path : Option String) :
    Except LoadFault AppSettings × List Log.Entry :=
  let (source, log) := match path with
    | none => (some [], [])
    | some path => fileSource files (fromHome env path)
  match source with
  | none => (.error .unloadable, log)
  | some source =>
    match decode (combine env source) with
    | .ok settings => (.ok settings, log)
    | .error fault => (.error (.unfit fault), log)

end CodeGate.Settings
