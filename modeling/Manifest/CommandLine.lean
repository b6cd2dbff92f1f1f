import Manifest.Text.Blank
import Manifest.Text.Split

/-!
# The command line

The arguments name a command and give values to its options. They are read from left to right, and
the first thing that is wrong with them or a request for help ends the reading.

## Main definitions

* `CommandLine.OptionName` — the options, each of which takes a value.
* `CommandLine.Argument` — what a single argument is.
* `CommandLine.readOptions` — the values of options up to the next plain argument.
* `Command`, `Invocation` — what is asked for.
* `Invocation.read` — what all arguments ask for.
-/

namespace Manifest

/-- How events are written. -/
inductive LogFormat
  | text | json
  deriving DecidableEq, Repr

/-- What the compilation for a node is told. -/
structure CompileOptions where
  /-- The path of the directory of manifests. -/
  manifests : String
  /-- The name of the node. -/
  node : String
  /-- The facts about the node. -/
  facts : List (String × String)
  environment : Option String
  /-- The path of a configuration. -/
  config : Option String
  deriving DecidableEq, Repr

/-- A command. -/
inductive Command
  /-- Prints the catalog for a node. -/
  | compile (options : CompileOptions)
  /-- Prints which definitions there are in a directory. -/
  | check (manifests : String)
  deriving DecidableEq, Repr

/-- A command together with the way in which events are written. -/
structure Invocation where
  logFormat : LogFormat
  command : Command
  deriving DecidableEq, Repr

/-- Why there is nothing to be run. -/
inductive Refusal
  /-- Help is asked for. -/
  | help
  /-- The arguments are wrong. -/
  | usage
  deriving DecidableEq, Repr

namespace CommandLine

/-- An option, which takes a value. -/
inductive OptionName
  | logFormat | manifests | node | fact | environment | config
  deriving DecidableEq, Repr

namespace OptionName

/-- The name that is written after two hyphens. -/
def long : OptionName → String
  | logFormat => "log-format"
  | manifests => "manifests"
  | node => "node"
  | fact => "fact"
  | environment => "environment"
  | config => "config"

/-- The letter that is written after one hyphen. -/
def short? : OptionName → Option Char
  | logFormat => none
  | manifests => some 'm'
  | node => some 'n'
  | fact => some 'f'
  | environment => some 'e'
  | config => some 'c'

/-- Whether the option may be given more than once. -/
def isRepeatable (o : OptionName) : Bool := o = fact

/-- Options that stand before the command. -/
def general : List OptionName := [logFormat]

/-- Options of the command that compiles. -/
def ofCompile : List OptionName := [manifests, node, fact, environment, config, logFormat]

/-- Options of the command that checks. -/
def ofCheck : List OptionName := [manifests, logFormat]

end OptionName

/-! ### Values -/

/-- Reads a fact: a key, which is not blank, an equals sign and the value. -/
def fact? (text : String) : Option (String × String) :=
  ((Text.cut? '=' text).map fun p => (Text.trim p.1, p.2)).filter fun p => p.1 ≠ ""

/-- The formats by name. -/
def logFormat? (name : String) : Option LogFormat :=
  if name = "text" then some .text else if name = "json" then some .json else none

/-- Whether an option takes a value. Paths are not empty. -/
def accepts (o : OptionName) (value : String) : Bool :=
  match o with
  | .logFormat => (logFormat? value).isSome
  | .manifests | .config => value ≠ ""
  | .fact => (fact? value).isSome
  | .node | .environment => true

/-- The values of options in the order in which they were given. -/
abbrev Values := List (OptionName × String)

namespace Values

/-- The value of an option that is given at most once. -/
def get? (vs : Values) (o : OptionName) : Option String :=
  (vs.find? (·.1 == o)).map Prod.snd

/-- Adds a value, unless the option does not take it or has one already. -/
def add (vs : Values) (o : OptionName) (value : String) : Except Refusal Values :=
  if accepts o value ∧ (o.isRepeatable ∨ vs.get? o = none) then .ok (vs ++ [(o, value)])
  else .error .usage

/-- The facts. -/
def facts (vs : Values) : List (String × String) :=
  vs.filterMap fun v => if v.1 = .fact then fact? v.2 else none

end Values

/-! ### Arguments -/

/-- What a single argument is. -/
inductive Argument
  /-- Two hyphens, after which nothing is an option. -/
  | endOfOptions
  | help
  /-- An option, with its value if that is part of the argument. -/
  | option (name : OptionName) (value : Option String)
  /-- An option that is not known. -/
  | unknown
  /-- An argument that is no option. -/
  | plain (text : String)
  deriving DecidableEq, Repr

/-- The value behind the letter of an option, where an equals sign may come first. -/
def attachedValue : List Char → Option String
  | [] => none
  | '=' :: value => some (String.ofList value)
  | value => some (String.ofList value)

/-- The argument with a long name and maybe a value. -/
def longArgument (known : List OptionName) (name : String) (value : Option String) : Argument :=
  match known.find? (·.long == name) with
  | some o => .option o value
  | none => if name = "help" ∧ value = none then .help else .unknown

/-- What an argument is where some options are known. -/
def argument (known : List OptionName) (text : String) : Argument :=
  match text.toList with
  | ['-', '-'] => .endOfOptions
  | '-' :: '-' :: body =>
    match Text.cutChars? '=' body with
    | some (name, value) => longArgument known (String.ofList name) (some (String.ofList value))
    | none => longArgument known (String.ofList body) none
  | '-' :: letter :: rest =>
    if letter = 'h' then .help
    else
      match known.find? (·.short? == some letter) with
      | some o => .option o (attachedValue rest)
      | none => .unknown
  | _ => .plain text

/-- Reads options with their values up to the first plain argument. The value of an option may be
the next argument, but not one that begins like an option. -/
def readOptions (known : List OptionName) (vs : Values) :
    List String → Except Refusal (Values × List String)
  | [] => .ok (vs, [])
  | text :: rest =>
    match argument known text with
    | .endOfOptions => if rest = [] then .ok (vs, []) else .error .usage
    | .help => .error .help
    | .unknown => .error .usage
    | .plain _ => .ok (vs, text :: rest)
    | .option o (some value) =>
      match vs.add o value with
      | .ok vs => readOptions known vs rest
      | .error e => .error e
    | .option o none =>
      match rest with
      | value :: more =>
        match argument known value with
        | .plain _ =>
          match vs.add o value with
          | .ok vs => readOptions known vs more
          | .error e => .error e
        | _ => .error .usage
      | [] => .error .usage

/-- Reads options where no plain argument may follow. -/
def readAll (known : List OptionName) (args : List String) : Except Refusal Values :=
  match readOptions known [] args with
  | .ok (vs, []) => .ok vs
  | .ok (_, _ :: _) => .error .usage
  | .error e => .error e

end CommandLine

open CommandLine

namespace Command

/-- The command that options of `compile` stand for; directory and node must be given. -/
def ofCompileValues (vs : Values) : Except Refusal Command :=
  match vs.get? .manifests, vs.get? .node with
  | some manifests, some node =>
    .ok (.compile ⟨manifests, node, vs.facts, vs.get? .environment, vs.get? .config⟩)
  | _, _ => .error .usage

/-- The command that options of `check` stand for; the directory must be given. -/
def ofCheckValues (vs : Values) : Except Refusal Command :=
  match vs.get? .manifests with
  | some manifests => .ok (.check manifests)
  | none => .error .usage

end Command

namespace Invocation

/-- The format of events: the one after the command, or else the one before, or else text. -/
def formatOf (before after : Values) : LogFormat :=
  (((after.get? .logFormat).or (before.get? .logFormat)).bind logFormat?).getD .text

/-- A command whose options are read by `known` and put together by `ofValues`. -/
def ofOptions (before : Values) (known : List OptionName)
    (ofValues : Values → Except Refusal Command) (args : List String) :
    Except Refusal Invocation := do
  let after ← readAll known args
  return ⟨formatOf before after, ← ofValues after⟩

/-- What all arguments ask for. -/
def read (args : List String) : Except Refusal Invocation := do
  match ← readOptions OptionName.general [] args with
  | (before, "compile" :: rest) =>
    ofOptions before OptionName.ofCompile Command.ofCompileValues rest
  | (before, "check" :: rest) => ofOptions before OptionName.ofCheck Command.ofCheckValues rest
  | (_, "help" :: rest) =>
    .error (if rest = [] ∨ rest ∈ [["compile"], ["check"], ["help"]] then .help else .usage)
  | _ => .error .usage

end Invocation

end Manifest
