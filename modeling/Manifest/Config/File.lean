import Manifest.Config
import Manifest.FileTree

/-!
# Configurations in files

## Main definitions

* `ConfigError` — why a file holds no configuration.
* `Config.readFile` — the configuration in a file.
-/

namespace Manifest

/-- Why a file holds no configuration. -/
inductive ConfigError
  | unreadable (path : String) (cause : FileError)
  /-- The text is no configuration. -/
  | invalid
  deriving DecidableEq, Repr

namespace ConfigError

/-- The wordings of what lies behind an error. -/
def causes : ConfigError → List String
  | unreadable _ cause => [cause.message]
  | invalid => ["the text does not hold a configuration"]

/-- The wording of an error. -/
def message : ConfigError → String
  | unreadable path cause => "failed to read config " ++ path ++ ": " ++ cause.message
  | invalid => "invalid config: " ++ String.intercalate ": " invalid.causes

end ConfigError

/-- The configuration in a file. -/
def Config.readFile (t : FileTree) (path : String) : Except ConfigError Config :=
  match t.readText path with
  | .error e => .error (.unreadable path e)
  | .ok text =>
    match read? text with
    | some config => .ok config
    | none => .error .invalid

end Manifest
