import Manifest.Shell.Arithmetic
import Manifest.Shell.Builtin
import Manifest.Shell.Line
import Manifest.Table

/-!
# Running a line

## Main definitions

* `Shell.Session` — variables, last status and output so far.
* `Shell.expandWords` — the arguments that words stand for.
* `Shell.run` — what a line leaves behind.
-/

namespace Manifest.Shell

/-- What a shell remembers while it runs a line. -/
structure Session where
  bindings : Table String
  /-- The status of the last command. -/
  last : Nat
  output : List UInt8
  errors : List UInt8

/-! ### Words -/

/-- The value of a variable or special parameter. -/
def Session.parameter (s : Session) (name : String) : String :=
  if name = "$" then processId
  else if name = "?" then toString s.last
  else (s.bindings.get? name).getD ""

/-- The numeric value of a variable. -/
def Session.number (s : Session) (name : String) : Int := leadingInteger (s.parameter name)

/-- The fields that a text without quotes is split into. -/
def splitFields (text : String) : List (List Char) :=
  (text.toList.splitBy fun a b => isBlank a == isBlank b).filter fun field =>
    !(field.all isBlank)

/-- Appends characters to a field, which they begin if there is none. -/
def extend (field : Option (List Char)) (cs : List Char) : Option (List Char) :=
  some (field.getD [] ++ cs)

/-- The arguments that the parts of a word stand for, where `field` is the one that has been
begun; there are none if an arithmetic expression has no value. -/
def expandParts (s : Session) (field : Option (List Char)) : Word → Option (List (List Char))
  | [] => some field.toList
  | .literal text :: rest => expandParts s (extend field text) rest
  | .arithmetic expression :: rest =>
    (evaluateArithmetic? s.number expression).bind fun n =>
      expandParts s (extend field (toString n).toList) rest
  | .parameter name true :: rest => expandParts s (extend field (s.parameter name).toList) rest
  | .parameter name false :: rest =>
    match splitFields (s.parameter name) with
    | [] => expandParts s field rest
    | first :: more =>
      match more.getLast? with
      | none => expandParts s (extend field first) rest
      | some last =>
        (expandParts s (some last) rest).map fun fields =>
          (field.getD [] ++ first) :: more.dropLast ++ fields

/-- The arguments that words stand for. -/
def expandWords (s : Session) (words : List Word) : Option (List String) :=
  (words.mapM (expandParts s none)).map fun fields => fields.flatten.map String.ofList

/-! ### Assignments -/

/-- The name and value of a word that is an assignment. -/
def assignment? (s : Session) (w : Word) : Option (String × String) :=
  let text := ((expandParts s none w).getD []).flatten
  let name := text.takeWhile isNameChar
  match text.drop name.length, w with
  | '=' :: value, .literal (c :: _) :: _ =>
    if c.isDigit || name.isEmpty then none else some (String.ofList name, String.ofList value)
  | _, _ => none

/-! ### Commands -/

/-- Where an output goes after redirections, which are taken from left to right. -/
def targetOf (redirections : List Redirection) (number : Nat) : Target :=
  let step (targets : Target × Target) (r : Redirection) : Target × Target :=
    let goal : Target :=
      match r.target with
      | .output 1 => targets.1
      | .output _ => targets.2
      | .nowhere => .nowhere
    if r.source = 1 then (goal, targets.2) else (targets.1, goal)
  let targets := redirections.foldl step (.output 1, .output 2)
  if number = 1 then targets.1 else targets.2

/-- Writes bytes to where an output goes. -/
def Session.put (s : Session) (target : Target) (bytes : List UInt8) : Session :=
  match target with
  | .output 1 => { s with output := s.output ++ bytes }
  | .output _ => { s with errors := s.errors ++ bytes }
  | .nowhere => s

/-- Runs a command. The shell goes on, or it has ended with a status. -/
def runCommand (s : Session) (c : SimpleCommand) : Session × Option Status :=
  match c.words.mapM (assignment? s) with
  | some assignments =>
    (assignments.foldl (fun s a => { s with bindings := s.bindings.insert a.1 a.2 })
      { s with last := 0 }, none)
  | none =>
    let out := targetOf c.redirections 1
    let err := targetOf c.redirections 2
    match expandWords s c.words with
    | none =>
      (s.put err (Text.encode "sh: 1: arithmetic expression: expecting primary\n"),
        some (.exited 2))
    | some [] => ({ s with last := 0 }, none)
    | some (name :: args) =>
      match builtin s.last name args with
      | .write output errors code => ({ (s.put out output).put err errors with last := code }, none)
      | .leave code => (s, some (.exited code))
      | .abort text code =>
        (s.put err (Text.encode ("sh: 1: " ++ text ++ "\n")), some (.exited code))
      | .die signal => (s, some (.killed signal))

/-- Whether a command is run after one with this status. -/
def Condition.holds (last : Nat) : Condition → Bool
  | always => true
  | onSuccess => last == 0
  | onFailure => last != 0

/-- Runs commands until one of them ends the shell. -/
def runCommands (s : Session) : Line → Session × Status
  | [] => (s, .exited s.last)
  | (condition, command) :: rest =>
    if condition.holds s.last then
      match runCommand s command with
      | (s, none) => runCommands s rest
      | (s, some status) => (s, status)
    else runCommands s rest

/-- What a line leaves behind. -/
def run (text : String) : Outcome :=
  match readLine text with
  | .error e => ⟨.exited 2, [], Text.encode ("sh: 1: " ++ e.message ++ "\n")⟩
  | .ok line =>
    let (s, status) := runCommands ⟨.empty, 0, [], []⟩ line
    ⟨status, s.output, s.errors⟩

end Manifest.Shell
