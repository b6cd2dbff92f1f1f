import Manifest.Catalog
import Manifest.Collection

/-!
# Errors of a compilation

## Main definitions

* `EvalError` — why there is no catalog.
* `EvalError.message` — the wording.
* `EvalError.ofCatalog` — the error that a refusal of the catalog is.
-/

namespace Manifest

/-- Why there is no catalog. -/
inductive EvalError
  /-- The manifests could not be read. -/
  | load (error : LoadError)
  /-- A class, type or end of a relationship that is not there. -/
  | unresolvedReference (reference : String) (location : Location)
  /-- A second declaration of a resource. -/
  | duplicateResource (reference : Reference) (first second : Location)
  /-- A second assignment to a variable in one scope. -/
  | reassignment (name : String) (location : Location)
  /-- A parameter that the resource does not take. -/
  | invalidParameter (resource : Reference) (parameter : String) (location : Location)
  /-- A parameter without default that is not given. -/
  | missingParameter (resource : Reference) (parameter : String) (location : Location)
  /-- A class that inherits from itself. -/
  | circularInheritance (className : String) (location : Location)
  /-- A variable without a value. -/
  | undefinedVariable (name : String) (location : Location)
  | unknownFunction (name : String) (location : Location)
  /-- The manifest asked for failure. -/
  | failed (text : String) (location : Location)
  /-- There are node definitions, but none for the node. -/
  | noNodeDefinition (node : String)
  /-- The version command did not succeed. -/
  | versionCommand (command reason : String)
  | unknownEnvironment (name : String)
  /-- Classes and defines are entered from within each other more often than allowed. -/
  | tooDeep
  deriving DecidableEq, Repr

namespace EvalError

/-- The wording of an error, which starts with its place if it has one. -/
def message : EvalError → String
  | load error => error.message
  | unresolvedReference reference l => l.text ++ ": could not resolve " ++ reference
  | duplicateResource reference first second =>
    (CatalogError.duplicateResource reference first second).message
  | reassignment name l => l.text ++ ": cannot reassign variable $" ++ name
  | invalidParameter resource parameter l =>
    l.text ++ ": invalid parameter '" ++ parameter ++ "' for " ++ resource.text
  | missingParameter resource parameter l =>
    l.text ++ ": " ++ resource.text ++ " requires parameter '" ++ parameter ++ "'"
  | circularInheritance name l => l.text ++ ": class " ++ name ++ " inherits from itself"
  | undefinedVariable name l => l.text ++ ": unknown variable $" ++ name
  | unknownFunction name l => l.text ++ ": unknown function " ++ name
  | failed text l => l.text ++ ": " ++ text
  | noNodeDefinition node => "could not find a node definition matching " ++ node
  | versionCommand command reason => "version command '" ++ command ++ "' failed: " ++ reason
  | unknownEnvironment name => "unknown environment " ++ name
  | tooDeep => "evaluation is nested too deeply"

/-- The wordings of what lies behind an error. -/
def causes : EvalError → List String
  | load error => error.causes
  | _ => []

/-- Whether the error is about the place of a definition. -/
def isStructural : EvalError → Bool
  | load error => error.isStructural
  | _ => false

/-- The error that a refusal of the catalog is. An end of an edge has no place of its own. -/
def ofCatalog : CatalogError → EvalError
  | .duplicateResource reference first second => duplicateResource reference first second
  | .missingEndpoint reference => unresolvedReference reference.text ⟨"", 0, 0⟩

end EvalError

/-- Why the compilation for a node failed. -/
structure CompileError where
  node : String
  cause : EvalError
  deriving DecidableEq, Repr

namespace CompileError

/-- The wording of a failure. -/
def message (e : CompileError) : String :=
  "compilation failed for node " ++ e.node ++ ": " ++ e.cause.message

/-- The wordings of what lies behind a failure. -/
def causes (e : CompileError) : List String := e.cause.message :: e.cause.causes

end CompileError

end Manifest
