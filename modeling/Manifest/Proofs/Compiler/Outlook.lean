import Manifest.Compiler
import Manifest.Source.Memory

/-!
# What calls depend on

The calls for a node in an environment share the environment with the calls for other nodes, which
read its sources, number its collections and take back that it was marked stale.  What a call for
one key answers should depend on the calls for this key alone, on what was written and marked stale,
on the clock and on the shell.  That is all there is in an outlook, which goes through a run without
any environment.

## Main definitions

* `Compiler.Step` — what happens to a compiler whose units are in memory.
* `Compiler.Outlook` — what the calls for one key depend on.
* `Compiler.Outlook.answer`, `Compiler.Outlook.called` — what a call answers and leaves.
* `Compiler.Outlook.answers` — what a run answers to the one who has the key.
-/

namespace Manifest

open Evaluation

/-- The key under which the catalog of a node is kept. -/
def Config.keyOf (config : Config) (node : Node) (environment : Option String) : CacheKey :=
  ⟨node.name, (environment.or node.environment).getD config.defaultEnvironment⟩

namespace Compiler

/-- What happens to a compiler whose environments have their units in memory. -/
inductive Step
  /-- A node is compiled, perhaps in an environment that the caller names. -/
  | compile (node : Node) (environment : Option String)
  /-- A unit of an environment is written at a time. -/
  | write (environment : String) (now : Timestamp) (name text : String)
  /-- The clock is set, forwards or backwards. -/
  | setClock (clock : Clock)
  /-- From now on the version command prints something else, or fails. -/
  | changeShell (shell : Shell)
  /-- The collection of an environment is marked stale. -/
  | markStale (environment : String)

/-- What the calls for a key depend on. -/
structure Outlook where
  registry : Registry
  config : Config
  /-- Whether there is such an environment. -/
  known : Bool
  /-- The units of the environment. -/
  sources : MemorySources
  clock : Clock
  shell : Shell
  /-- The catalog that was last made, with its node. -/
  kept : Option (Node × Catalog)
  /-- Whether the units were neither written nor marked stale since then. -/
  offered : Bool

namespace Outlook

/-- The catalog that is returned again for a node. -/
def reused? (o : Outlook) (node : Node) : Option Catalog :=
  (o.kept.filter fun k => o.offered && k.1.same node).map Prod.snd

/-- A new catalog for a node. -/
def make (o : Outlook) (key : CacheKey) (node : Node) (collection : Collection) :
    Except CompileError Catalog :=
  match (run ⟨node, key.environment, collection, o.registry, o.config.strictVariables⟩).1 with
  | .error e => .error ⟨node.name, e⟩
  | .ok catalog =>
    match (Version.stamp o.config o.clock o.shell).1 with
    | .error e => .error ⟨node.name, e⟩
    | .ok version =>
      .ok { catalog with version := version.advance (o.kept.map fun k => k.2.version) }

/-- What a call for a node answers. -/
def answer (o : Outlook) (key : CacheKey) (node : Node) : Except CompileError Catalog :=
  if o.known then
    match Collection.load o.sources.provider with
    | .error e => .error ⟨node.name, .load e⟩
    | .ok collection =>
      match o.reused? node with
      | some catalog => .ok catalog
      | none => o.make key node collection
  else .error ⟨node.name, .unknownEnvironment key.environment⟩

/-- The outlook after a call for a node. -/
def called (o : Outlook) (key : CacheKey) (node : Node) : Outlook :=
  match o.reused? node, o.answer key node with
  | none, .ok catalog => { o with kept := some (node, catalog), offered := true }
  | _, _ => o

/-- The outlook for a key after a step.  Only the clock and the shell are shared with other
environments, and calls for other keys are passed over. -/
def step (o : Outlook) (key : CacheKey) : Step → Outlook
  | .compile node environment =>
    if o.config.keyOf node environment = key then o.called key node else o
  | .write environment now name text =>
    if environment = key.environment then
      { o with sources := o.sources.set now name text, offered := false }
    else o
  | .setClock clock => { o with clock := clock }
  | .changeShell shell => { o with shell := shell }
  | .markStale environment =>
    if environment = key.environment then { o with offered := false } else o

/-- What a step answers to the one who has the key. -/
def answer? (o : Outlook) (key : CacheKey) : Step → Option (Except CompileError Catalog)
  | .compile node environment =>
    if o.config.keyOf node environment = key then some (o.answer key node) else none
  | _ => none

/-- What some steps answer to the one who has the key, oldest first. -/
def answers (key : CacheKey) (o : Outlook) : List Step → List (Except CompileError Catalog)
  | [] => []
  | s :: rest => (o.answer? key s).toList ++ answers key (o.step key s) rest

variable {o : Outlook} {key : CacheKey} {node : Node}

theorem called_of_error {error : CompileError} (h : o.answer key node = .error error) :
    o.called key node = o := by
  rw [called, h]
  cases o.reused? node <;> rfl

theorem called_of_reused {catalog : Catalog} (h : o.reused? node = some catalog) :
    o.called key node = o := by
  rw [called, h]

theorem called_of_ok {catalog : Catalog} (h : o.reused? node = none)
    (hanswer : o.answer key node = .ok catalog) :
    o.called key node = { o with kept := some (node, catalog), offered := true } := by
  rw [called, h, hanswer]

theorem answer_of_unknown (h : o.known = false) :
    o.answer key node = .error ⟨node.name, .unknownEnvironment key.environment⟩ := by
  rw [answer, h]
  rfl

theorem answer_of_error (h : o.known = true) {error : LoadError}
    (hload : Collection.load o.sources.provider = .error error) :
    o.answer key node = .error ⟨node.name, .load error⟩ := by
  simp [answer, h, hload]

theorem answer_of_reused (h : o.known = true) {collection : Collection}
    (hload : Collection.load o.sources.provider = .ok collection) {catalog : Catalog}
    (hreused : o.reused? node = some catalog) : o.answer key node = .ok catalog := by
  simp [answer, h, hload, hreused]

theorem answer_of_missed (h : o.known = true) {collection : Collection}
    (hload : Collection.load o.sources.provider = .ok collection)
    (hreused : o.reused? node = none) : o.answer key node = o.make key node collection := by
  simp [answer, h, hload, hreused]

theorem config_step (o : Outlook) (key : CacheKey) (s : Step) :
    (o.step key s).config = o.config := by
  cases s with
  | compile node environment =>
    simp only [step, called]
    split
    · split <;> rfl
    · rfl
  | write environment now name text =>
    rw [step]
    split <;> rfl
  | setClock clock => rfl
  | changeShell shell => rfl
  | markStale environment =>
    rw [step]
    split <;> rfl

end Outlook

end Compiler

end Manifest
