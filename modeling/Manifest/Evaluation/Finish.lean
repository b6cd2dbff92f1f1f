import Manifest.Evaluation.State

/-!
# Finishing a catalog

At the end the recorded relationships become edges, and every resource gets its name variable and
its tags.

## Main definitions

* `Evaluation.relationshipsOf` — the edges that the parameters of a resource ask for.
* `Evaluation.finishResource` — a resource with name variable and tags.
* `Evaluation.finish` — the finished catalog.
-/

namespace Manifest.Evaluation

/-! ### Edges -/

/-- A metaparameter that asks for edges. -/
structure RelationshipParameter where
  name : String
  kind : EdgeKind
  /-- Whether the edges leave the resource that has the parameter. -/
  outgoing : Bool

/-- The metaparameters that ask for edges. -/
def relationshipParameters : List RelationshipParameter :=
  [⟨"require", .before, false⟩, ⟨"before", .before, true⟩, ⟨"notify", .notify, true⟩,
   ⟨"subscribe", .notify, false⟩]

/-- The edge between a resource and another one that a metaparameter asks for. -/
def RelationshipParameter.edge (p : RelationshipParameter) (r : Resource) (other : Reference) :
    Relationship :=
  if p.outgoing then ⟨r.reference, other, p.kind, r.location⟩
  else ⟨other, r.reference, p.kind, r.location⟩

/-- The edges that one metaparameter of a resource asks for. -/
def relationshipsFrom (r : Resource) (p : RelationshipParameter) :
    Except EvalError (List Relationship) :=
  match r.parameter? p.name with
  | none => .ok []
  | some value => do return (← referencesOf r.location value).map (p.edge r)

/-- The edges that the parameters of a resource ask for. -/
def relationshipsOf (r : Resource) : Except EvalError (List Relationship) := do
  return (← relationshipParameters.mapM (relationshipsFrom r)).flatten

/-- Puts a recorded edge into the catalog; both ends must be there. -/
def connect (c : Catalog) (r : Relationship) : Except EvalError Catalog :=
  match c.addEdge ⟨r.source, r.target, r.kind⟩ with
  | .ok c => .ok c
  | .error (.missingEndpoint reference) => .error (.unresolvedReference reference.text r.location)
  | .error e => .error (.ofCatalog e)

/-! ### Resources -/

/-- The resource with its name variable, if its type is registered. -/
def withNamevar (registry : Registry) (r : Resource) : Resource :=
  match registry.get? r.reference.typeName with
  | some d =>
    if r.parameters.contains d.namevar then r
    else r.setParameter d.namevar (.string r.reference.title)
  | none => r

/-- The error about the first parameter that the registered type of a resource does not take. -/
def rejected? (registry : Registry) (r : Resource) : Option EvalError :=
  (registry.get? r.reference.typeName).bind fun d =>
    (r.parameters.keys.find? fun name => !isMetaparameter name && !d.accepts name).map fun name =>
      .invalidParameter r.reference name r.location

/-- The tags for a name: the name, and its segments if there are several. -/
def nameTags (name : String) : List String :=
  name :: if Name.isQualified name then (Name.segments name.toList).map String.ofList else []

/-- The classes that own a scope or one around it, innermost first, in lower case. -/
def owningClasses (scopes : ScopeArena) (scope : ScopeId) : List String :=
  (scopes.ancestors scope).filterMap fun id =>
    let owner := scopes.owner id
    if owner.isClass && owner.title != "Main" then some (Text.lower owner.title) else none

/-- The tags of a resource: its type, the classes around it, and the values of `tag`. -/
def tagsOf (scopes : ScopeArena) (r : Resource) : List String :=
  nameTags (Text.lower r.reference.typeName) ++
    (owningClasses scopes r.scope).flatMap nameTags ++
    ((r.parameter? "tag").map fun v => v.flatten.map Value.text).getD []

/-- A resource with name variable and tags. -/
def finishResource (registry : Registry) (scopes : ScopeArena) (r : Resource) : Resource :=
  let named := withNamevar registry r
  { (tagsOf scopes named).foldl Resource.tag named with finished := true }

/-- The finished catalog of an evaluation. -/
def finish (registry : Registry) (s : EvalState) : Except EvalError Catalog := do
  let asked ← s.catalog.resources.values.mapM relationshipsOf
  let c ← (s.relationships ++ asked.flatten).foldlM connect s.catalog
  match c.resources.values.findSome? fun r => rejected? registry (withNamevar registry r) with
  | some e => .error e
  | none => .ok (c.mapResources (finishResource registry s.scopes))

end Manifest.Evaluation
