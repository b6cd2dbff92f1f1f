import Manifest.CommandLine
import Manifest.Compiler
import Manifest.Config.File
import Manifest.Event.Filter
import Manifest.Source.Directory

/-!
# Running a command

A command works on a tree of files. It prints a text or fails with a list of messages, of which each
is the reason for the one before.

## Main definitions

* `Report` — what a command prints and reports.
* `CompileOptions.run`, `Check.run` — the two commands.
* `Command.run` — either of them.
-/

namespace Manifest

/-- What a command has done. -/
structure Report where
  /-- The text that is printed, or else the messages of a failure. -/
  result : Except (List String) String
  /-- The events, oldest first. -/
  events : List Event

namespace Report

/-- The exit code. -/
def exitCode (r : Report) : Nat :=
  match r.result with
  | .ok _ => 0
  | .error _ => 1

/-- The text that is printed. -/
def output (r : Report) : String :=
  match r.result with
  | .ok text => text
  | .error _ => ""

/-- The messages of a failure. -/
def errors (r : Report) : List String :=
  match r.result with
  | .ok _ => []
  | .error messages => messages

end Report

/-! ### Compilation -/

namespace CompileOptions

/-- The configuration in the file that the options name, or else the default one. -/
def readConfig (o : CompileOptions) (t : FileTree) : Except ConfigError Config :=
  match o.config with
  | some path => Config.readFile t path
  | none => .ok {}

/-- The name of the only environment. -/
def environmentName (o : CompileOptions) (config : Config) : String :=
  o.environment.getD config.defaultEnvironment

/-- A compiler with an environment of the given name. -/
def compiler (environment : String) (config : Config) : Compiler :=
  .new ((Environments.new environment).insert (.new environment)) .builtin config

/-- The node with its facts. -/
def subject (o : CompileOptions) (environment : String) : Node :=
  ⟨o.node, .ofList o.facts, some environment⟩

/-- Prints the catalog for a node. -/
def run (o : CompileOptions) (t : FileTree) (clock : Clock) : Report :=
  match o.readConfig t with
  | .error e => ⟨.error (e.message :: e.causes), []⟩
  | .ok config =>
    let environment := o.environmentName config
    let sources : DirectorySources := ⟨t, o.manifests⟩
    let made := (compiler environment config).compile (fun _ => sources.provider) clock
      (o.subject environment) none
    match made.result with
    | .error e => ⟨.error (e.message :: e.causes), made.events⟩
    | .ok c =>
      ⟨.ok c.text, made.events ++ [.catalogReady c.node c.resources.size c.edges.items.length]⟩

end CompileOptions

/-! ### Check -/

namespace Check

/-- The line about a definition. -/
def definitionLine (d : Definition) : String := "  " ++ d.kind ++ " " ++ d.name

/-- How many manifests and definitions there are, and the definitions line by line. -/
def text (c : Collection) : String :=
  let head := toString c.manifests.length ++ " manifests, " ++ toString c.definitions.size ++
    " definitions"
  String.intercalate "\n" (head :: c.definitions.values.map definitionLine)

/-- Prints which definitions there are in a directory. -/
def run (manifests : String) (t : FileTree) : Report :=
  if t.isDirectory manifests then
    let sources : DirectorySources := ⟨t, manifests⟩
    match Collection.load sources.provider with
    | .error e => ⟨.error (e.message :: e.causes), []⟩
    | .ok c => ⟨.ok (text c), [c.loadedEvent]⟩
  else ⟨.error ["manifest directory " ++ manifests ++ " does not exist"], []⟩

end Check

/-! ### Commands -/

/-- Runs a command on a tree of files. -/
def Command.run (c : Command) (t : FileTree) (clock : Clock) : Report :=
  match c with
  | .compile options => options.run t clock
  | .check manifests => Check.run manifests t

/-- The events of a report that a filter shows. -/
def Report.shownEvents (r : Report) (f : EventFilter) : List Event := r.events.filter f.shows

end Manifest
