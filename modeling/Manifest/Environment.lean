import Manifest.Collection

/-!
# Environments

An environment holds the collection that was last read from its sources. It reads them when it is
first asked and whenever they have changed; when that fails it keeps what it holds.

## Main definitions

* `Environment` — the collection held and how often one was read.
* `Environment.collection` — the collection that is not stale, read anew if need be.
* `Environments` — environments by name, one of them the default.
-/

namespace Manifest

/-- A named set of manifests. -/
structure Environment where
  name : String
  /-- The collection that was last read. -/
  current : Option Collection
  /-- How many collections were read. -/
  generations : Nat
  /-- The collection held is the last one that was read. -/
  generation_eq : ∀ c ∈ current, c.generation = generations

namespace Environment

/-- An environment that has read nothing. -/
def new (name : String) : Environment := ⟨name, none, 0, by simp⟩

/-- What a call changes and reports beside its result. -/
structure Outcome (α : Type) where
  result : α
  environment : Environment
  events : List Event

/-- Reads the sources; on failure the environment stays as it is. -/
def reload (e : Environment) (p : Provider) : Outcome (Except LoadError Collection) :=
  match Collection.load p with
  | .ok c =>
    let generation := e.generations + 1
    let c := { c with generation := generation }
    ⟨.ok c, ⟨e.name, some c, generation, by simp [c]⟩,
      [c.loadedEvent, .environmentLoaded e.name generation]⟩
  | .error error => ⟨.error error, e, [.environmentFailed e.name error.message]⟩

/-- The collection that is not stale: the one held or else a new one. -/
def collection (e : Environment) (p : Provider) : Outcome (Except LoadError Collection) :=
  match e.current with
  | none => e.reload p
  | some c =>
    match c.isStale p with
    | .error error => ⟨.error (.source error), e, []⟩
    | .ok false => ⟨.ok c, e, []⟩
    | .ok true => e.reload p

/-- Asks for a new reading of the sources. -/
def markStale (e : Environment) : Environment :=
  { e with
    current := e.current.map Collection.markStale
    generation_eq := by
      intro c hc
      obtain ⟨d, hd, rfl⟩ := Option.map_eq_some_iff.mp hc
      exact e.generation_eq d hd }

/-- An environment in a few words. -/
def summary (e : Environment) : String :=
  "Environment \x7b name: " ++ Text.quoted e.name ++ ", generations: " ++ toString e.generations ++
    ", .. \x7d"

end Environment

/-- Environments by name. -/
structure Environments where
  /-- The name of the environment that is meant when none is named. -/
  defaultName : String
  environments : Table Environment
  /-- Every environment stands under its own name. -/
  named : ∀ p ∈ environments.entries, p.1 = p.2.name

namespace Environments

/-- No environments. -/
def new (defaultName : String) : Environments := ⟨defaultName, .empty, by simp [Table.empty]⟩

/-- Adds an environment or replaces the one with its name. -/
def insert (es : Environments) (e : Environment) : Environments :=
  { es with
    environments := es.environments.insert e.name e
    named := fun p hp => (Table.mem_put hp).elim (fun h => h ▸ rfl) (es.named p) }

/-- The environment with a name, or the default one. -/
def get? (es : Environments) (name : Option String) : Option Environment :=
  es.environments.get? (name.getD es.defaultName)

/-- The names, in the order in which the environments were added. -/
def names (es : Environments) : List String := es.environments.keys

/-- Environments in a few words. -/
def summary (es : Environments) : String :=
  let entry (e : String × Environment) : String := Text.quoted e.1 ++ ": " ++ e.2.summary
  "Environments \x7b default: " ++ Text.quoted es.defaultName ++ ", environments: \x7b" ++
    String.intercalate ", " (es.environments.entries.map entry) ++ "\x7d \x7d"

end Environments

end Manifest
