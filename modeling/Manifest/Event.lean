import Manifest.Json

/-!
# Events

While it works, the program reports what it does.

## Main definitions

* `Event` — what is reported.
* `Event.level`, `Event.target` — what filters go by.
* `Event.message`, `Event.fields` — what is written.
-/

namespace Manifest

/-- What is reported. -/
inductive Event
  /-- All units of a collection are read. -/
  | collectionLoaded (units definitions nodes : Nat)
  /-- An environment has a new collection. -/
  | environmentLoaded (environment : String) (generation : Nat)
  /-- An environment could not be loaded. -/
  | environmentFailed (environment error : String)
  /-- A node definition is about to be evaluated. -/
  | nodeEntered (node definition : String)
  /-- A class is about to be evaluated. -/
  | classEntered (name : String)
  /-- A manifest has something to say. -/
  | notice (node location text : String)
  /-- The version command has run. -/
  | commandRan (command version : String)
  /-- A catalog is answered without a new evaluation. -/
  | catalogReused (node environment : String)
  | catalogCompiled (node environment version : String) (resources : Nat)
  /-- A catalog is about to be printed. -/
  | catalogReady (node : String) (resources edges : Nat)
  deriving DecidableEq, Repr

/-- How much an event matters, from most to least. -/
inductive Level
  | error | warn | info | debug | trace
  deriving DecidableEq, Repr

namespace Level

/-- The place of a level, counted from the most important one. -/
def rank : Level → Nat
  | error => 1
  | warn => 2
  | info => 3
  | debug => 4
  | trace => 5

/-- How a level is written. -/
def text : Level → String
  | error => "ERROR"
  | warn => "WARN"
  | info => "INFO"
  | debug => "DEBUG"
  | trace => "TRACE"

end Level

namespace Event

/-- How much an event matters. -/
def level : Event → Level
  | environmentFailed .. => .warn
  | environmentLoaded .. | notice .. | catalogCompiled .. | catalogReady .. => .info
  | collectionLoaded .. | nodeEntered .. | classEntered _ | commandRan .. | catalogReused .. =>
    .debug

/-- The part of the program that reports an event. -/
def target : Event → String
  | collectionLoaded .. => "trellis_types::collection"
  | environmentLoaded .. | environmentFailed .. => "trellis_types::environment"
  | nodeEntered .. | classEntered _ | notice .. => "trellis_compiler::eval"
  | commandRan .. => "trellis_compiler::version"
  | catalogReused .. | catalogCompiled .. => "trellis_compiler::compiler"
  | catalogReady .. => "trellis"

/-- The text of an event. -/
def message : Event → String
  | collectionLoaded .. => "Loaded type collection"
  | environmentLoaded .. => "Loaded manifests"
  | environmentFailed .. => "Manifest load failed"
  | nodeEntered .. => "Evaluating node definition"
  | classEntered _ => "Evaluating class"
  | notice _ _ text => text
  | commandRan .. => "Ran version command"
  | catalogReused .. => "Reusing cached catalog"
  | catalogCompiled .. => "Compiled catalog"
  | catalogReady .. => "Catalog ready"

/-- The details of an event. -/
def details : Event → List (String × Json)
  | collectionLoaded units definitions nodes =>
    [("units", .integer units), ("definitions", .integer definitions), ("nodes", .integer nodes)]
  | environmentLoaded environment generation =>
    [("environment", .string environment), ("generation", .integer generation)]
  | environmentFailed environment error =>
    [("environment", .string environment), ("error", .string error)]
  | nodeEntered node definition => [("node", .string node), ("definition", .string definition)]
  | classEntered name => [("class", .string name)]
  | notice node location _ => [("node", .string node), ("location", .string location)]
  | commandRan command version => [("command", .string command), ("version", .string version)]
  | catalogReused node environment =>
    [("node", .string node), ("environment", .string environment)]
  | catalogCompiled node environment version resources =>
    [("node", .string node), ("environment", .string environment), ("version", .string version),
     ("resources", .integer resources)]
  | catalogReady node resources edges =>
    [("node", .string node), ("resources", .integer resources), ("edges", .integer edges)]

/-- The fields of an event as an object, the message first. -/
def fields (e : Event) : Json := .object (("message", .string e.message) :: e.details)

end Event

end Manifest
