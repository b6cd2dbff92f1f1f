import Manifest.Environment
import Manifest.Evaluation
import Manifest.Version.Stamp

/-!
# The compiler

The compiler keeps the last catalog for each node in each environment. It answers with it again as
long as the collection and the node stay what they were; a new catalog gets a newer version.

## Main definitions

* `CacheKey`, `CacheEntry` — what is kept for whom.
* `Compiler` — environments, resource types, configuration and kept catalogs.
* `Compiler.compile` — the catalog for a node.
-/

namespace Manifest

/-- For whom a catalog is kept. -/
structure CacheKey where
  node : String
  environment : String
  deriving DecidableEq, Repr

/-- A catalog that is kept, with what it was made from. -/
structure CacheEntry where
  /-- The generation of the collection, see `Collection.generation`. -/
  generation : Nat
  node : Node
  catalog : Catalog

/-- The catalogs that are kept, at most one for each key. -/
abbrev Cache := List (CacheKey × CacheEntry)

namespace Cache

/-- What is kept for a key. -/
def get? (cache : Cache) (key : CacheKey) : Option CacheEntry :=
  (cache.find? (·.1 == key)).map Prod.snd

/-- Keeps an entry in place of the one before. -/
def insert (cache : Cache) (key : CacheKey) (entry : CacheEntry) : Cache :=
  (key, entry) :: cache.filter (·.1 != key)

end Cache

/-- Compiles nodes into catalogs. -/
structure Compiler where
  environments : Environments
  registry : Registry
  config : Config
  cache : Cache

namespace Compiler

/-- A compiler that keeps nothing yet. -/
def new (environments : Environments) (registry : Registry) (config : Config) : Compiler :=
  ⟨environments, registry, config, []⟩

/-- What a call changes and reports beside its result. -/
structure Outcome where
  result : Except CompileError Catalog
  compiler : Compiler
  events : List Event

/-- The environment for a node: the one asked for by the caller, that of the node, or the default
one. -/
def environmentName (c : Compiler) (node : Node) (environment : Option String) : String :=
  (environment.or node.environment).getD c.config.defaultEnvironment

/-- The catalog that is kept for a key, if it was made from the collection of this generation and
for the same node. -/
def cached? (c : Compiler) (key : CacheKey) (generation : Nat) (node : Node) : Option Catalog :=
  ((Cache.get? c.cache key).filter fun e =>
    e.generation == generation && e.node.same node).map CacheEntry.catalog

/-- The version of the catalog that was last made for a key. -/
def previousVersion? (c : Compiler) (key : CacheKey) : Option Version :=
  (Cache.get? c.cache key).map fun e => e.catalog.version

/-- What the evaluation of a node in an environment with a collection is about. -/
def setting (c : Compiler) (node : Node) (environment : String) (collection : Collection) :
    Setting :=
  ⟨node, environment, collection, c.registry, c.config.strictVariables⟩

/-- The report about a new catalog. -/
def compiledEvent (catalog : Catalog) (key : CacheKey) : Event :=
  .catalogCompiled key.node key.environment catalog.version.text catalog.resources.size

/-- Evaluates a node against a collection, and stamps and keeps the catalog. -/
def evaluate (c : Compiler) (clock : Clock) (shell : Shell) (node : Node) (key : CacheKey)
    (collection : Collection) : Outcome :=
  match Evaluation.run (c.setting node key.environment collection) with
  | (.error e, events) => ⟨.error ⟨node.name, e⟩, c, events⟩
  | (.ok catalog, events) =>
    match Version.stamp c.config clock shell with
    | (.error e, more) => ⟨.error ⟨node.name, e⟩, c, events ++ more⟩
    | (.ok version, more) =>
      let catalog := { catalog with version := version.advance (c.previousVersion? key) }
      let entry : CacheEntry := ⟨collection.generation, node, catalog⟩
      ⟨.ok catalog, { c with cache := Cache.insert c.cache key entry },
        events ++ more ++ [compiledEvent catalog key]⟩

/-- The catalog for a node, where `sources` says what the sources of each environment answer, and
`shell` runs the version command. -/
def compile (c : Compiler) (sources : String → Provider) (clock : Clock) (node : Node)
    (environment : Option String) (shell : Shell := Shell.run) : Outcome :=
  let name := c.environmentName node environment
  match c.environments.get? (some name) with
  | none => ⟨.error ⟨node.name, .unknownEnvironment name⟩, c, []⟩
  | some e =>
    let read := e.collection (sources e.name)
    let c := { c with environments := c.environments.insert read.environment }
    match read.result with
    | .error error => ⟨.error ⟨node.name, .load error⟩, c, read.events⟩
    | .ok collection =>
      let key : CacheKey := ⟨node.name, e.name⟩
      match c.cached? key collection.generation node with
      | some catalog => ⟨.ok catalog, c, read.events ++ [.catalogReused node.name e.name]⟩
      | none =>
        let made := c.evaluate clock shell node key collection
        { made with events := read.events ++ made.events }

/-- Registers a resource type. -/
def register (c : Compiler) (d : TypeDescriptor) : Except RegistryError Compiler :=
  (c.registry.register d).map fun registry => { c with registry := registry }

/-- Forgets all catalogs. -/
def clearCache (c : Compiler) : Compiler := { c with cache := [] }

/-- A compiler in a few words. -/
def summary (c : Compiler) : String :=
  let command :=
    match c.config.versionCommand with
    | some line => "Some(" ++ Text.quoted line ++ ")"
    | none => "None"
  "Compiler \x7b environments: " ++ c.environments.summary ++
    ", config: CompilerConfig \x7b version_command: " ++ command ++ ", default_environment: " ++
    Text.quoted c.config.defaultEnvironment ++ ", strict_variables: " ++
    (if c.config.strictVariables then "true" else "false") ++ " \x7d, .. \x7d"

end Compiler

end Manifest
