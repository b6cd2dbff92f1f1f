import Manifest.Location
import Manifest.OrderedSet
import Manifest.Table
import Manifest.Text.Case
import Manifest.Value

/-!
# Resources

## Main definitions

* `Resource` — a declared resource with its parameters and tags.
* `isMetaparameter` — the parameters that every resource takes.
-/

namespace Manifest

/-- Scopes are counted from zero, which is the top scope.  They are counted without bound here; kept
in 32 bits they tell `2^32` scopes apart. -/
abbrev ScopeId := Nat

/-- The parameters that every resource takes. -/
def metaparameters : List String :=
  ["require", "before", "notify", "subscribe", "tag", "alias", "audit", "noop", "schedule",
   "loglevel", "stage"]

/-- Whether every resource takes this parameter. -/
def isMetaparameter (name : String) : Bool := metaparameters.contains name

/-- A declared resource. -/
structure Resource where
  reference : Reference
  /-- The parameters in the order in which they were given. -/
  parameters : Table Value
  tags : OrderedSet String
  /-- Where it is declared. -/
  location : Location
  /-- The scope in which it is declared. -/
  scope : ScopeId
  /-- Whether its parameters are checked and completed. -/
  finished : Bool
  deriving DecidableEq

namespace Resource

/-- A resource without parameters and tags. -/
def new (reference : Reference) (scope : ScopeId) (location : Location) : Resource :=
  ⟨reference, .empty, .empty, location, scope, false⟩

/-- The value of a parameter. -/
def parameter? (r : Resource) (name : String) : Option Value := r.parameters.get? name

/-- Gives a parameter a value. -/
def setParameter (r : Resource) (name : String) (value : Value) : Resource :=
  { r with parameters := r.parameters.insert name value }

/-- Adds a tag, in lower case. -/
def tag (r : Resource) (tag : String) : Resource :=
  { r with tags := r.tags.insert (Text.lower tag) }

/-- Whether a resource has a tag, in any case. -/
def tagged (r : Resource) (tag : String) : Bool := r.tags.contains (Text.lower tag)

end Resource

end Manifest
