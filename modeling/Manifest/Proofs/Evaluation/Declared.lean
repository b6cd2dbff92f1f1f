import Manifest.Proofs.Evaluation.Operations

/-!
# What statements declare

A declaration names a type, which a namespace resolves to a define or else to a registered type.
What names can be met while statements are executed is read off the statements; what resources can
come into a catalog follows from what types are known.

## Main definitions

* `typeNamesIn` — the names of the types that statements declare resources of.
* `Setting.Resolves` — what a type name stands for in a namespace.
* `Setting.Declarable` — the resources that an evaluation can declare.
-/

namespace Manifest

open Evaluation

/-! ### Names of types in statements -/

mutual

/-- The type name of each body that a statement declares resources with, those in all branches of a
conditional included. A class that is declared like a resource has no such type, and definitions
are not executed where they stand. -/
def Statement.typeNames : Statement → List String
  | .resource typeName bodies _ => if typeName = "class" then [] else bodies.map fun _ => typeName
  | .conditional branches _ => typeNamesInBranches branches
  | .classDefinition .. | .defineDefinition .. | .nodeDefinition .. | .assignment ..
  | .expression _ => []

/-- The type names in statements. -/
def typeNamesIn : List Statement → List String
  | [] => []
  | s :: rest => s.typeNames ++ typeNamesIn rest

/-- The type names in the bodies of branches. -/
def typeNamesInBranches : List Branch → List String
  | [] => []
  | .mk _ body _ :: rest => typeNamesIn body ++ typeNamesInBranches rest

end

/-! ### Types that are known -/

/-- The collection defines this very define. -/
def Collection.HasDefine (collection : Collection) (d : DefineDefinition) : Prop :=
  collection.definitions.get? d.name = some (.ofDefine d)

theorem Collection.hasDefine_of_findDefine? {collection : Collection} {name space : String}
    {d : DefineDefinition} (h : collection.findDefine? name space = some d) :
    collection.HasDefine d := by
  obtain ⟨e, he, hpick⟩ := exists_get?_of_find? h
  cases e with
  | ofClass c => cases hpick
  | ofDefine e =>
    cases hpick
    exact he

namespace Setting

/-- What a type name stands for in a namespace. -/
def Resolves (setting : Setting) (name space : String) : DeclaredType → Prop
  | .define d => setting.collection.findDefine? name space = some d
  | .registered other => other = name ∧ setting.registry.contains name = true

/-- A type that a name may stand for. -/
def Knows (setting : Setting) : DeclaredType → Prop
  | .define d => setting.collection.HasDefine d
  | .registered name => setting.registry.contains name = true

variable {setting : Setting}

theorem Resolves.knows {name space : String} {type : DeclaredType}
    (h : setting.Resolves name space type) : setting.Knows type := by
  cases type with
  | define d => exact Collection.hasDefine_of_findDefine? h
  | registered other => exact h.1 ▸ h.2

/-- The resources that an evaluation can declare: as they come into the catalog they have the
parameters that they are given, and neither tags nor anything else. -/
inductive Declarable (setting : Setting) : Resource → Prop
  | main : setting.Declarable (Resource.new ScopeArena.mainClass ScopeArena.top Location.builtin)
  | ofNode (n : NodeDefinition) :
    setting.Declarable (Resource.new (.of "node" (nodeTitle n)) ScopeArena.top n.location)
  | ofClass (c : ClassDefinition) (given : Table Value) (scope : ScopeId) (location : Location) :
    setting.Declarable (classResource c given scope location)
  | ofType {type : DeclaredType} (known : setting.Knows type) (given : Table Value)
    (scope : ScopeId) (location : Location) (title : String) :
    setting.Declarable
      { Resource.new (.of type.name title) scope location with parameters := given }

end Setting

end Manifest
