import Manifest.Shell

/-!
# Commands of the shell itself

## Main definitions

* `Shell.echo` — its arguments with blanks between them.
* `Shell.printf` — its arguments in a format.
* `Shell.Builtin` — what a command does.
-/

namespace Manifest.Shell

/-- The value of an octal digit. -/
def octalValue? (c : Char) : Option Nat :=
  if '0' ≤ c && c ≤ '7' then some (c.toNat - 48) else none

/-- The octal digits at the front, at most `count` of them. -/
def octalDigits (count : Nat) (cs : List Char) : List Char :=
  (cs.take count).takeWhile fun c => (octalValue? c).isSome

/-- The byte that octal digits stand for. -/
def octalByte (digits : List Char) : UInt8 :=
  UInt8.ofNat (digits.foldl (fun n c => 8 * n + (octalValue? c).getD 0) 0)

/-- The byte for the letter behind a backslash. -/
def escapeByte? : Char → Option UInt8
  | 'a' => some 7
  | 'b' => some 8
  | 'f' => some 12
  | 'n' => some 10
  | 'r' => some 13
  | 't' => some 9
  | 'v' => some 11
  | '\\' => some 92
  | _ => none

/-! ### Echo -/

/-- The bytes of a text behind its first `skip` characters with escapes replaced, and whether all
output ends there. -/
def echoBytes : Nat → List Char → List UInt8 × Bool
  | _, [] => ([], false)
  | skip + 1, _ :: rest => echoBytes skip rest
  | 0, '\\' :: 'c' :: _ => ([], true)
  | 0, '\\' :: '0' :: rest =>
    let digits := octalDigits 3 rest
    let r := echoBytes (digits.length + 1) ('0' :: rest)
    (octalByte digits :: r.1, r.2)
  | 0, c :: rest =>
    match c, rest.head?.bind escapeByte? with
    | '\\', some b =>
      let r := echoBytes 1 rest
      (b :: r.1, r.2)
    | _, _ =>
      let r := echoBytes 0 rest
      (Text.encodeChars [c] ++ r.1, r.2)

/-- The arguments with blanks between them, and a line break unless the first one is `-n`. -/
def echo (args : List String) : List UInt8 :=
  let silent := args.head? = some "-n"
  let words := if silent then args.tail else args
  let r := echoBytes 0 (String.intercalate " " words).toList
  if r.2 || silent then r.1 else r.1 ++ [10]

/-! ### Formatted output -/

/-- The number that a text begins with. -/
def leadingInteger (s : String) : Int := (s.toInt?).getD 0

/-- The bytes of a format behind its first `skip` characters, and the arguments that are left. -/
def formatBytes : Nat → List Char → List String → List UInt8 × List String
  | _, [], args => ([], args)
  | skip + 1, _ :: rest, args => formatBytes skip rest args
  | 0, c :: rest, args =>
    let put (bytes : List UInt8) (skip : Nat) (args : List String) : List UInt8 × List String :=
      let r := formatBytes skip rest args
      (bytes ++ r.1, r.2)
    match c, rest.head? with
    | '%', some '%' => put [37] 1 args
    | '%', some 's' => put (Text.encode (args.head?.getD "")) 1 args.tail
    | '%', some 'd' =>
      put (Text.encode (toString (leadingInteger (args.head?.getD "")))) 1 args.tail
    | '\\', some e =>
      let digits := octalDigits 3 rest
      if !digits.isEmpty then put [octalByte digits] digits.length args
      else
        match escapeByte? e with
        | some b => put [b] 1 args
        | none => put (Text.encodeChars [c]) 0 args
    | _, _ => put (Text.encodeChars [c]) 0 args

/-- Uses a format again as long as it takes arguments and some are left. -/
def formatAll (format : List Char) : Nat → List String → List UInt8
  | 0, _ => []
  | bound + 1, args =>
    let r := formatBytes 0 format args
    if r.2.isEmpty || r.2.length = args.length then r.1 else r.1 ++ formatAll format bound r.2

/-- The arguments in the format that the first one is. -/
def printf : List String → List UInt8
  | [] => []
  | format :: args => formatAll format.toList (args.length + 1) args

/-! ### All commands -/

/-- What a command does. -/
inductive Builtin
  /-- Writes bytes and ends with a status. -/
  | write (output errors : List UInt8) (code : Nat)
  /-- Ends the shell. -/
  | leave (code : Nat)
  /-- Ends the shell with a message. -/
  | abort (errors : String) (code : Nat)
  /-- Ends the shell by a signal. -/
  | die (signal : Nat)
  deriving DecidableEq, Repr

/-- The number of the shell among all processes. -/
def processId : String := "2"

/-- The signal with a number or name. -/
def signal? (text : String) : Option Nat :=
  match text.toNat? with
  | some n => some n
  | none =>
    (Status.signalNames.find? fun s => s.2 == text || "SIG" ++ s.2 == text).map Prod.fst

/-- Sends a signal to a process. -/
def kill (args : List String) : Builtin :=
  let request : Option Nat × List String :=
    match args with
    | "-s" :: name :: rest => (signal? name, rest)
    | first :: rest =>
      match first.toList with
      | '-' :: name => (signal? (String.ofList name), rest)
      | _ => (some 15, args)
    | [] => (none, [])
  match request with
  | (some signal, [target]) =>
    if target = processId && Status.isFatal signal then .die signal else .write [] [] 0
  | _ => .write [] [] 2

/-- The command with a name, where `last` is the status of the command before. -/
def builtin (last : Nat) : String → List String → Builtin
  | "echo", args => .write (echo args) [] 0
  | "printf", args => .write (printf args) [] 0
  | "true", _ | ":", _ => .write [] [] 0
  | "false", _ => .write [] [] 1
  | "kill", args => kill args
  | "exit", [] => .leave last
  | "exit", code :: _ =>
    match code.toNat? with
    | some n => .leave (n % 256)
    | none => .abort ("exit: Illegal number: " ++ code) 2
  | name, _ => .write [] (Text.encode ("sh: 1: " ++ name ++ ": not found\n")) 127

end Manifest.Shell
