import Manifest.Evaluation.Definition
import Manifest.Evaluation.Finish

/-!
# Evaluation of manifests for a node

All manifests are executed in the top scope, then the definition for the node in a scope of its
own, and then the catalog is finished.

## Main definitions

* `EvalState.start` — the state before the first statement.
* `Evaluation.executeSite` — executes everything that is written for the node.
* `Evaluation.program` — all steps of an evaluation.
* `Evaluation.depthLimit` — how often bodies may be entered within each other.
* `Evaluation.run` — the catalog, with the reports.
-/

namespace Manifest

/-- The variables of the top scope: the environment and the facts of the node. -/
def Setting.bindings (setting : Setting) : Table Value :=
  let facts := setting.node.facts.entries.filter (·.1 ≠ "environment")
  .ofList (("environment", .string setting.environment) ::
    facts.map fun f => (f.1, .string f.2))

/-- The catalog with the main class alone. -/
def Setting.mainCatalog (setting : Setting) : Catalog :=
  let main := Resource.new ScopeArena.mainClass ScopeArena.top Location.builtin
  { Catalog.new setting.node.name setting.environment with
    resources := .ofList [(main.reference.text, main)] }

/-- The state before the first statement. -/
def EvalState.start (setting : Setting) : EvalState where
  scopes := ⟨#[{ ScopeArena.topScope with bindings := setting.bindings }]⟩
  catalog := setting.mainCatalog
  classScopes := .ofList [("main", ScopeArena.top)]
  inheriting := []
  relationships := []
  events := []

namespace Evaluation

/-- The title of the resource for a node definition: its first name. -/
def nodeTitle (n : NodeDefinition) : String :=
  match n.names.head? with
  | some (.exact name) => name
  | some .fallback | none => "default"

/-- Gives the node its resource, and executes its definition in a scope of its own. -/
def enterNode (setting : Setting) (enter : Enter) (n : NodeDefinition) : Eval Unit := do
  let reference := Reference.of "node" (nodeTitle n)
  report (.nodeEntered setting.node.name reference.text)
  place ScopeArena.top (Resource.new reference ScopeArena.top n.location)
  let scope ← newScope ScopeArena.top "" reference
  executeAll setting enter scope n.body

/-- Executes the definition for the node, if there are node definitions at all. -/
def executeNode (setting : Setting) (enter : Enter) : Eval Unit :=
  if setting.collection.nodes.isEmpty then return ()
  else
    match setting.collection.nodeDefinition? setting.node.name with
    | none => throw (.noNodeDefinition setting.node.name)
    | some n => enterNode setting enter n

/-- Executes all manifests in the top scope and then the definition for the node. -/
def executeSite (setting : Setting) (enter : Enter) : Eval Unit := do
  setting.collection.manifests.forM fun ast =>
    executeAll setting enter ScopeArena.top ast.statements
  executeNode setting enter

/-- The finished catalog of the state. -/
def finishState (setting : Setting) : Eval Catalog := do
  match finish setting.registry (← get) with
  | .ok catalog => return catalog
  | .error e => throw e

/-- All steps of an evaluation, where at most `limit` bodies are entered within each other. -/
def program (setting : Setting) (limit : Nat) : Eval Catalog := do
  executeSite setting (enter setting limit)
  finishState setting

/-- Room for defines that declare themselves again, more than any reasonable manifest asks for. -/
def recursionAllowance : Nat := 100000

/-- How often bodies may be entered within each other. No class is entered within itself, so
without recursion of defines there are at most as many classes as the collection has, and between
any two of them at most as many defines as it has. -/
def depthLimit (c : Collection) : Nat :=
  let classes := (c.definitions.values.filterMap Definition.asClass?).length
  let defines := (c.definitions.values.filterMap Definition.asDefine?).length
  (classes + 1) * (defines + 1) + recursionAllowance

/-- The catalog for a node, with the reports up to its end or failure. -/
def run (setting : Setting) : Except EvalError Catalog × List Event :=
  match (program setting (depthLimit setting.collection)).run (EvalState.start setting) with
  | .ok catalog s => (.ok catalog, s.events)
  | .error e s => (.error e, s.events)

end Evaluation

end Manifest
