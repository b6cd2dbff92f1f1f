import Manifest.Json.Record
import Manifest.Json.Reader
import Manifest.Text.Blank

/-!
# The configuration of a compiler

## Main definitions

* `Config` — the settings, each with a default.
* `Config.effectiveCommand?` — the version command that is run.
* `Config.read?` — the configuration in a text.
-/

namespace Manifest

/-- The settings of a compiler. -/
structure Config where
  /-- The command whose output is the version of a catalog. -/
  versionCommand : Option String := none
  /-- The environment of a node that asks for none. -/
  defaultEnvironment : String := "production"
  /-- Whether reading a variable without a value is an error. -/
  strictVariables : Bool := true
  deriving DecidableEq, Repr, Inhabited

namespace Config

/-- The version command without the blanks at its ends, unless nothing is left. -/
def effectiveCommand? (c : Config) : Option String :=
  (c.versionCommand.map Text.trim).filter (· ≠ "")

/-- A configuration as an object. -/
def toJson (c : Config) : Json :=
  .object [("version_command", (c.versionCommand.map Json.string).getD .null),
    ("default_environment", .string c.defaultEnvironment),
    ("strict_variables", .bool c.strictVariables)]

/-- Reads a configuration; what is missing keeps its default. -/
def ofJson? (v : Json) : Option Config :=
  let default : Config := {}
  match v.fields? ["version_command", "default_environment", "strict_variables"] with
  | some [command, environment, strict] => do
    some ⟨← Json.orDefault default.versionCommand (Json.asOptional? Json.asString?) command,
      ← Json.orDefault default.defaultEnvironment Json.asString? environment,
      ← Json.orDefault default.strictVariables Json.asBool? strict⟩
  | _ => none

/-- The configuration that a JSON text holds. -/
def read? (text : String) : Option Config := (Json.read? text).bind ofJson?

end Config

end Manifest
