import Manifest.Json.Record
import Manifest.Json.Writer
import Manifest.Resource
import Manifest.Version

/-!
# Catalogs

A catalog holds the resources of a node, each once, and the edges between them.

## Main definitions

* `Edge` — a directed edge between two resources.
* `Catalog` — resources in the order of their declaration and edges in the order of insertion.
* `Catalog.addResource`, `Catalog.addEdge` — the two ways in which it grows.
* `Catalog.toJson` — the written form.
-/

namespace Manifest

/-- What an edge says of its two ends. -/
inductive EdgeKind
  /-- The source contains the target. -/
  | contains
  /-- The source is applied before the target. -/
  | before
  /-- The source is applied before the target and notifies it. -/
  | notify
  deriving DecidableEq, Repr

/-- How a kind is written. -/
def EdgeKind.text : EdgeKind → String
  | contains => "contains"
  | before => "before"
  | notify => "notify"

/-- A directed edge between two resources. -/
structure Edge where
  source : Reference
  target : Reference
  kind : EdgeKind
  deriving DecidableEq, Repr

/-- Why a catalog refuses. -/
inductive CatalogError
  /-- A second resource with the same written reference. -/
  | duplicateResource (reference : Reference) (first second : Location)
  /-- An edge with an end that is not there. -/
  | missingEndpoint (reference : Reference)
  deriving DecidableEq, Repr

/-- The wording of an error. -/
def CatalogError.message : CatalogError → String
  | duplicateResource reference first second =>
    "duplicate declaration: " ++ reference.text ++ " is already declared at " ++ first.text ++
      "; cannot redeclare at " ++ second.text
  | missingEndpoint reference => "edge endpoint " ++ reference.text ++ " is not in the catalog"

/-- The resources of a node and the edges between them. -/
structure Catalog where
  node : String
  environment : String
  version : Version
  /-- The resources by their written references. -/
  resources : Table Resource
  edges : OrderedSet Edge
  deriving DecidableEq

namespace Catalog

/-- A catalog without resources. -/
def new (node environment : String) : Catalog := ⟨node, environment, default, .empty, .empty⟩

/-- The resource with a reference. -/
def get? (c : Catalog) (reference : Reference) : Option Resource := c.resources.get? reference.text

/-- Whether there is a resource with this reference. -/
def contains (c : Catalog) (reference : Reference) : Bool := (c.get? reference).isSome

/-- The resource for the text of a reference, which need not be in the form of references. -/
def resource? (c : Catalog) (text : String) : Option Resource :=
  match Reference.ofText? text with
  | some reference => c.get? reference
  | none => c.resources.get? text

/-- Adds a resource; there must be none with its reference. -/
def addResource (c : Catalog) (r : Resource) : Except CatalogError Catalog :=
  match c.get? r.reference with
  | some existing => .error (.duplicateResource r.reference existing.location r.location)
  | none => .ok { c with resources := c.resources.insert r.reference.text r }

/-- Adds an edge unless it is there; both ends must be in the catalog. -/
def addEdge (c : Catalog) (e : Edge) : Except CatalogError Catalog :=
  if !c.contains e.source then .error (.missingEndpoint e.source)
  else if !c.contains e.target then .error (.missingEndpoint e.target)
  else .ok { c with edges := c.edges.insert e }

/-- Changes the resource with a reference, if there is one. -/
def modify (c : Catalog) (reference : Reference) (f : Resource → Resource) : Catalog :=
  { c with resources := c.resources.modify reference.text f }

/-- Changes every resource. -/
def mapResources (c : Catalog) (f : Resource → Resource) : Catalog :=
  { c with resources := c.resources.map f }

/-- The edges that leave a resource. -/
def edgesFrom (c : Catalog) (reference : Reference) : List Edge :=
  c.edges.items.filter (·.source == reference)

/-- The edges that enter a resource. -/
def edgesTo (c : Catalog) (reference : Reference) : List Edge :=
  c.edges.items.filter (·.target == reference)

/-- Whether an edge is in the catalog. -/
def hasEdge (c : Catalog) (e : Edge) : Bool := c.edges.contains e

/-! ### The written form -/

/-- A resource as an object, which begins with the members of its reference. -/
def resourceToJson (r : Resource) : Json :=
  .object [("type", .string r.reference.typeName), ("title", .string r.reference.title),
    ("parameters", .object (r.parameters.entries.map fun e => (e.1, e.2.toJson))),
    ("tags", .array (r.tags.items.map .string)), ("location", r.location.toJson)]

/-- An edge as an object. -/
def edgeToJson (e : Edge) : Json :=
  .object [("from", e.source.toJson), ("to", e.target.toJson), ("kind", .string e.kind.text)]

/-- A catalog as an object. -/
def toJson (c : Catalog) : Json :=
  .object [("node", .string c.node), ("environment", .string c.environment),
    ("version", c.version.toJson),
    ("resources", .object (c.resources.entries.map fun e => (e.1, resourceToJson e.2))),
    ("edges", .array (c.edges.items.map edgeToJson))]

/-- The written form of a catalog. -/
def text (c : Catalog) : String := c.toJson.pretty

end Catalog

end Manifest
