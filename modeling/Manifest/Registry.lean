import Manifest.Json.Record
import Manifest.OrderedSet
import Manifest.Table
import Manifest.Text.Case

/-!
# Resource types

The registry says which types of resources there are beside classes and defines, and which
attributes each of them takes. Names of types do not depend on case.

## Main definitions

* `TypeDescriptor` — one type of resources.
* `TypeDescriptor.accepts` — whether it takes an attribute.
* `Registry` — the types by their names in lower case.
* `Registry.builtin` — the types that are always there.
-/

namespace Manifest

/-- A type of resources. -/
structure TypeDescriptor where
  name : String
  /-- The attribute that is the title unless it is given. -/
  namevar : String
  /-- The attributes that may be given; any attribute if there are none. -/
  attributes : OrderedSet String
  /-- Whether `ensure` may be given as well. -/
  ensurable : Bool
  /-- Details that only providers read. -/
  metadata : Json

namespace TypeDescriptor

/-- The usual name variable. -/
def defaultNamevar : String := "name"

/-- A type that takes any attribute. -/
def ofName (name : String) : TypeDescriptor :=
  ⟨Text.lower name, defaultNamevar, .empty, false, .null⟩

/-- The type with further attributes. -/
def withAttributes (d : TypeDescriptor) (attributes : List String) : TypeDescriptor :=
  { d with attributes := attributes.foldl OrderedSet.insert d.attributes }

/-- Whether an attribute may be given, metaparameters aside. -/
def accepts (d : TypeDescriptor) (name : String) : Bool :=
  d.attributes.items.isEmpty || name == d.namevar || (d.ensurable && name == "ensure") ||
    d.attributes.contains name

/-- A type as an object. -/
def toJson (d : TypeDescriptor) : Json :=
  .object [("name", .string d.name), ("namevar", .string d.namevar),
    ("attributes", .array (d.attributes.items.map .string)), ("ensurable", .bool d.ensurable),
    ("metadata", d.metadata)]

/-- Reads a type; everything but the name may be missing. -/
def ofJson? (v : Json) : Option TypeDescriptor :=
  match v.fields? ["name", "namevar", "attributes", "ensurable", "metadata"] with
  | some [some name, namevar, attributes, ensurable, metadata] => do
    some ⟨← name.asString?, ← Json.orDefault defaultNamevar Json.asString? namevar,
      OrderedSet.ofList (← Json.orDefault [] Json.asStrings? attributes),
      ← Json.orDefault false Json.asBool? ensurable, (metadata.map Json.sorted).getD .null⟩
  | _ => none

end TypeDescriptor

/-- Why the registry refuses. -/
inductive RegistryError
  | alreadyRegistered (name : String)
  | notFound (name : String)
  deriving DecidableEq, Repr

/-- The wording of an error. -/
def RegistryError.message : RegistryError → String
  | alreadyRegistered name => "resource type already registered: " ++ name
  | notFound name => "resource type not found: " ++ name

/-- The resource types by their names in lower case. -/
structure Registry where
  types : Table TypeDescriptor

namespace Registry

/-- The registry without types. -/
def empty : Registry := ⟨.empty⟩

/-- The type with a name in any case. -/
def get? (r : Registry) (name : String) : Option TypeDescriptor := r.types.get? (Text.lower name)

/-- Whether there is a type with this name. -/
def contains (r : Registry) (name : String) : Bool := (r.get? name).isSome

/-- The type with a name, which must be there. -/
def require (r : Registry) (name : String) : Except RegistryError TypeDescriptor :=
  match r.get? name with
  | some d => .ok d
  | none => .error (.notFound (Text.lower name))

/-- Adds a type, whose name must be new. -/
def register (r : Registry) (d : TypeDescriptor) : Except RegistryError Registry :=
  let name := Text.lower d.name
  if r.types.contains name then .error (.alreadyRegistered name)
  else .ok ⟨r.types.insert name { d with name := name }⟩

/-- The names, in the order of registration. -/
def names (r : Registry) : List String := r.types.keys

/-- A type with its name variable, whether it takes `ensure`, and its other attributes. -/
def builtinType (name namevar : String) (ensurable : Bool) (attributes : List String) :
    TypeDescriptor :=
  ⟨name, namevar, .ofList attributes, ensurable, .null⟩

/-- The types that are always there. -/
def builtinTypes : List TypeDescriptor :=
  [builtinType "notify" "name" false ["message", "withpath"],
   builtinType "file" "path" true
    ["content", "source", "mode", "owner", "group", "target", "recurse", "force", "backup",
     "purge", "replace"],
   builtinType "package" "name" true ["provider", "source", "install_options", "adminfile"],
   builtinType "service" "name" true
    ["enable", "hasstatus", "hasrestart", "restart", "start", "stop", "status", "provider",
     "pattern"],
   builtinType "exec" "command" false
    ["cwd", "creates", "onlyif", "unless", "refreshonly", "refresh", "path", "user", "group",
     "environment", "timeout", "returns", "logoutput"],
   builtinType "user" "name" true
    ["uid", "gid", "home", "shell", "groups", "managehome", "comment", "password", "system"],
   builtinType "group" "name" true ["gid", "members", "system"],
   builtinType "cron" "name" true
    ["command", "user", "minute", "hour", "monthday", "month", "weekday", "environment",
     "target"],
   builtinType "host" "name" true ["ip", "host_aliases", "comment", "target"]]

/-- The registry of the types that are always there. -/
def builtin : Registry := ⟨.ofList (builtinTypes.map fun d => (d.name, d))⟩

end Registry

end Manifest
