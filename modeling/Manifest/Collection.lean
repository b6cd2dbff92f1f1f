import Manifest.Event
import Manifest.Grammar
import Manifest.Source

/-!
# Collections of definitions

A collection holds the trees of all units of an environment and finds classes and defines by name
and node definitions by the name of a node.

## Main definitions

* `Definition` — a class or a define.
* `LoadError` — why units make no collection.
* `Collection` — the units with their definitions by full name.
* `Collection.ofSources`, `Collection.load` — reading the units.
* `Collection.findClass?`, `Collection.findDefine?` — looking a name up from a namespace outwards.
* `Collection.nodeDefinition?` — the definition for a node.
* `Collection.isStale` — whether the units have changed since they were read.
-/

namespace Manifest

/-- A class or a define. -/
inductive Definition
  | ofClass (definition : ClassDefinition)
  | ofDefine (definition : DefineDefinition)

namespace Definition

/-- The full name. -/
def name : Definition → String
  | ofClass c => c.name
  | ofDefine d => d.name

/-- Where the definition stands. -/
def location : Definition → Location
  | ofClass c => c.location
  | ofDefine d => d.location

/-- The word for the kind of definition. -/
def kind : Definition → String
  | ofClass _ => "class"
  | ofDefine _ => "define"

/-- The class that a definition is. -/
def asClass? : Definition → Option ClassDefinition
  | ofClass c => some c
  | ofDefine _ => none

/-- The define that a definition is. -/
def asDefine? : Definition → Option DefineDefinition
  | ofClass _ => none
  | ofDefine d => some d

end Definition

/-- Why units make no collection. -/
inductive LoadError
  | source (error : SourceError)
  | parse (error : ParseError)
  /-- A second definition with the same full name. -/
  | duplicateDefinition (kind name : String) (first second : Location)
  deriving DecidableEq, Repr

namespace LoadError

/-- The wording of an error. -/
def message : LoadError → String
  | source error => error.message
  | parse error => error.message
  | duplicateDefinition kind name first second =>
    second.text ++ ": " ++ kind ++ " '" ++ name ++ "' is already defined at " ++ first.text

/-- The wordings of what lies behind an error. -/
def causes : LoadError → List String
  | source error => error.causes
  | _ => []

/-- Whether the error is about the place of a definition. -/
def isStructural : LoadError → Bool
  | parse error => error.isStructural
  | _ => false

end LoadError

/-- The units of an environment with their definitions. -/
structure Collection where
  /-- The trees of the units in the order in which they were read. -/
  manifests : List Ast
  /-- The classes and defines by full name. -/
  definitions : Table Definition
  /-- Every definition stands under its own name. -/
  named : ∀ e ∈ definitions.entries, e.1 = e.2.name
  nodes : List NodeDefinition
  /-- The markers that the units had when they were read. -/
  markers : Table Timestamp
  /-- Whether somebody has asked for a new reading. -/
  forcedStale : Bool
  /-- How many collections the environment had up to this one; counted without bound here,
  while 64 bits last for `2^64 - 1` collections. -/
  generation : Nat

namespace Collection

/-- The collection without units. -/
def empty : Collection := ⟨[], .empty, by simp [Table.empty], [], .empty, false, 0⟩

/-! ### Reading -/

/-- Adds a definition, whose name must be new. -/
def define (c : Collection) (d : Definition) : Except LoadError Collection :=
  match c.definitions.get? d.name with
  | some existing => .error (.duplicateDefinition d.kind d.name existing.location d.location)
  | none => .ok { c with
      definitions := c.definitions.insert d.name d
      named := fun e he => (Table.mem_put he).elim (fun h => h ▸ rfl) (c.named e) }

/-- The definitions of a unit: its classes and then its defines. -/
def definitionsOf (a : Ast) : List Definition :=
  a.classes.map .ofClass ++ a.defines.map .ofDefine

/-- Adds a unit. -/
def addSource (c : Collection) (s : Source) : Except LoadError Collection :=
  match parse s.name s.text with
  | .error e => .error (.parse e)
  | .ok ast =>
    match (definitionsOf ast).foldlM define c with
    | .error e => .error e
    | .ok c => .ok { c with
        nodes := c.nodes ++ ast.nodes
        markers := c.markers.insert s.name s.marker
        manifests := c.manifests ++ [ast] }

/-- The collection of units. -/
def ofSources (sources : List Source) : Except LoadError Collection :=
  sources.foldlM addSource empty

/-- The collection of all units that a provider answers. -/
def load (p : Provider) : Except LoadError Collection :=
  match p.load with
  | .error e => .error (.source e)
  | .ok sources => ofSources sources

/-- The report about a collection that was read. -/
def loadedEvent (c : Collection) : Event :=
  .collectionLoaded c.manifests.length c.definitions.size c.nodes.length

/-! ### Staleness -/

/-- Whether the collection has to be read again: somebody has asked for it, or the markers differ
from those that it was read with. -/
def isStale (c : Collection) (p : Provider) : Except SourceError Bool :=
  if c.forcedStale then .ok true
  else
    match p.markers with
    | .error e => .error e
    | .ok markers => .ok (!markers.sameEntries c.markers)

/-- Asks for a new reading. -/
def markStale (c : Collection) : Collection := { c with forcedStale := true }

/-! ### Looking names up -/

/-- The full names that a name in lower case may stand for in a namespace: a name with separators
stands for itself, any other one is looked for from the namespace outwards. -/
def fullNames (name space : String) : List String :=
  match Name.absolute? name with
  | some full => [full]
  | none =>
    if Name.isQualified name then [name] else Name.candidates (Text.lower space) name

/-- The first definition of the kind that `pick` takes, among those that a name may stand for in a
namespace. -/
def find? {α : Type} (c : Collection) (pick : Definition → Option α) (name space : String) :
    Option α :=
  (fullNames (Text.lower name) space).findSome? fun full => (c.definitions.get? full).bind pick

/-- The definition that a name stands for in a namespace. -/
def lookup? (c : Collection) (name space : String) : Option Definition := c.find? some name space

/-- The class that a name stands for in a namespace; defines do not hide it. -/
def findClass? (c : Collection) (name space : String) : Option ClassDefinition :=
  c.find? Definition.asClass? name space

/-- The define that a name stands for in a namespace; classes do not hide it. -/
def findDefine? (c : Collection) (name space : String) : Option DefineDefinition :=
  c.find? Definition.asDefine? name space

/-- The class with a full name. -/
def class? (c : Collection) (name : String) : Option ClassDefinition :=
  (c.definitions.get? (Text.lower name)).bind Definition.asClass?

/-! ### Nodes -/

/-- What remains of reversed characters behind each dot. -/
def shortenedReversed : List Char → List (List Char)
  | [] => []
  | '.' :: rest => rest :: shortenedReversed rest
  | _ :: rest => shortenedReversed rest

/-- A name, and what is left of it without its last label, its last two labels and so on. -/
def shortenings (name : String) : List String :=
  name :: (shortenedReversed name.toList.reverse).map fun cs => String.ofList cs.reverse

/-- The first node definition that is for a name. -/
def nodeNamed? (c : Collection) (name : NodeName) : Option NodeDefinition :=
  c.nodes.find? fun n => n.names.contains name

/-- The definition for a node: that for its name, for the name with fewer and fewer labels, or
else the one for all other nodes. -/
def nodeDefinition? (c : Collection) (name : String) : Option NodeDefinition :=
  ((shortenings (Text.lower name)).findSome? fun s => c.nodeNamed? (.exact s)).or
    (c.nodeNamed? .fallback)

/-! ### Summary -/

/-- A collection in a few words. -/
def summary (c : Collection) : String :=
  "TypeCollection \x7b definitions: [" ++
    String.intercalate ", " (c.definitions.keys.map Text.quoted) ++
    "], nodes: " ++ toString c.nodes.length ++ ", generation: " ++ toString c.generation ++
    ", forced_stale: " ++ (if c.forcedStale then "true" else "false") ++ ", .. \x7d"

end Collection

end Manifest
