import Manifest.Text.Utf8

/-!
# The command shell

The version command is a line for a command shell. The shell knows lists of simple commands, quotes,
variables, sums and products of whole numbers, and the commands that need no other program.

## Main definitions

* `Shell.Word`, `Shell.SimpleCommand`, `Shell.Line` — what a line consists of.
* `Shell.Status` — how a process ends.
* `Shell.Outcome` — what a process leaves behind.
* `Shell` — a shell, as far as it shows in what it leaves behind.
-/

namespace Manifest.Shell

/-- A part of a word. -/
inductive WordPart
  | literal (text : List Char)
  /-- The value of a variable or special parameter; without quotes it is split at blanks. -/
  | parameter (name : String) (quoted : Bool)
  /-- The value of an arithmetic expression. -/
  | arithmetic (expression : List Char)
  deriving DecidableEq, Repr

/-- A word, before its parts are replaced by their values. -/
abbrev Word := List WordPart

/-- Where the output of a command goes. -/
inductive Target
  /-- Where the output with this number goes. -/
  | output (number : Nat)
  | nowhere
  deriving DecidableEq, Repr

/-- A redirection of one output. -/
structure Redirection where
  source : Nat
  target : Target
  deriving DecidableEq, Repr

/-- A command with its words. -/
structure SimpleCommand where
  words : List Word
  redirections : List Redirection
  deriving DecidableEq, Repr

/-- When a command is run. -/
inductive Condition
  | always | onSuccess | onFailure
  deriving DecidableEq, Repr

/-- Commands that are run one after the other, each on a condition on the one before. -/
abbrev Line := List (Condition × SimpleCommand)

/-- How a process ends. -/
inductive Status
  | exited (code : Nat)
  | killed (signal : Nat)
  deriving DecidableEq, Repr

/-- What a process leaves behind. -/
structure Outcome where
  status : Status
  /-- What it has written to the standard output. -/
  output : List UInt8
  /-- What it has written to the standard error. -/
  errors : List UInt8
  deriving DecidableEq, Repr

namespace Status

/-- The signals that have names here. -/
def signalNames : List (Nat × String) :=
  [(1, "HUP"), (2, "INT"), (3, "QUIT"), (6, "ABRT"), (9, "KILL"), (10, "USR1"), (11, "SEGV"),
   (12, "USR2"), (13, "PIPE"), (14, "ALRM"), (15, "TERM")]

/-- The signals that end a process. -/
def isFatal (signal : Nat) : Bool := signalNames.any (·.1 == signal)

/-- The form of a status in messages. -/
def text : Status → String
  | exited code => "exit status: " ++ toString code
  | killed signal =>
    let name := ((signalNames.find? (·.1 == signal)).map fun s => " (SIG" ++ s.2 ++ ")").getD ""
    "signal: " ++ toString signal ++ name

end Status

end Manifest.Shell

namespace Manifest

/-- A shell, which leaves something behind for every line that it is given. The same line may give
something else later on; then there is another shell. -/
abbrev Shell := String → Shell.Outcome

end Manifest
