import WikiSync.Config.Resolve
import WikiSync.Files.Access
import WikiSync.Files.Path
import WikiSync.Toml.Reader

/-!
# Loading the Configuration

The command line counts more than the file, and the file more than the
environment. Without a path to a file, one of a fixed name is looked for in
the working directory and in the directories above it; the nearest one counts,
and there may be none.

## Main definitions

* `Environment`: What surrounds the program apart from files.
* `Config.discover`: Looks for a file.
* `Config.load`: Puts everything together.
-/

namespace WikiSync

/-- What surrounds the program apart from files. -/
structure Environment where
  vars : Variables
  /-- The absolute path of the working directory, if it is known. -/
  workingDirectory : Option String

namespace Config

/-- The name of the file with settings. -/
def fileName : String := "mdconf.toml"

/-- The first path that leads to anything. -/
def firstExisting : List String → Script Files (Option String)
  | [] => pure none
  | path :: rest => do
    match ← Script.question (I := Files) (.kind path) with
    | some _ => pure (some path)
    | none => firstExisting rest

/-- The paths at which a file with settings may be, seen from a directory. -/
def candidates (directory : String) : List String :=
  (Path.ancestors directory).map fun dir => Path.join dir fileName

/-- Looks for the nearest file with settings. -/
def discover (e : Environment) : Script Files (Option String) :=
  match e.workingDirectory with
  | some directory => firstExisting (candidates directory)
  | none => pure none

/-- The path of the file with settings: the one that is asked for, or else the
nearest one. -/
def locate (e : Environment) (asked : Option String) :
    Script Files (Except ConfigError (Option String)) := do
  match asked with
  | some path =>
    match ← Script.question (I := Files) (.kind path) with
    | some _ => pure (.ok (some path))
    | none => pure (.error (.notFound path))
  | none => .ok <$> discover e

/-- The settings that a text spells, with references to variables replaced. -/
def parseLayer (vars : Variables) (text : String) : Except ConfigError ConfigLayer :=
  match (Toml.read? text).bind ConfigLayer.ofToml? with
  | some layer => layer.expand vars
  | none => .error .malformed

/-- Reads a file with settings. -/
def readLayer (vars : Variables) (path : String) :
    Script Files (Except ConfigError ConfigLayer) := do
  match ← readText path with
  | .ok text => pure (parseLayer vars text)
  | .error reason => pure (.error (.unreadable reason))

/-- The settings of the file at a path, or none without a path. -/
def fileLayer (e : Environment) (path : Option String) :
    Script Files (Except ConfigError ConfigLayer) :=
  match path with
  | some path => readLayer e.vars path
  | none => pure (.ok .empty)

/-- The settings of three layers together, the upper ones first. -/
def ofLayers (cli file env : ConfigLayer) (path : Option String) : Except ConfigError Config :=
  match (cli.withDefaults (file.withDefaults env)).resolve with
  | .ok c => .ok { c with path }
  | .error e => .error e

/-- Loads the configuration, with the file at a path if one is asked for. -/
def load (e : Environment) (asked : Option String) (env cli : ConfigLayer) :
    Script Files (Except ConfigError Config) := do
  match ← locate e asked with
  | .error problem => pure (.error problem)
  | .ok path =>
    match ← fileLayer e path with
    | .error problem => pure (.error problem)
    | .ok file => pure (ofLayers cli file env path)

end Config

end WikiSync
