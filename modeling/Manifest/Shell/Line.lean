import Manifest.Shell

/-!
# Reading a line

## Main definitions

* `Shell.LineError` — why a line cannot be read.
* `Shell.readWord` — a word with its quotes and expansions.
* `Shell.tokens` — the words and operators of a line.
* `Shell.readLine` — the commands of a line.
-/

namespace Manifest.Shell

/-- Why a line cannot be read. -/
inductive LineError
  | unterminatedQuote
  | unexpected (operator : String)
  | unexpectedEnd
  deriving DecidableEq, Repr

/-- The wording of an error. -/
def LineError.message : LineError → String
  | unterminatedQuote => "Syntax error: Unterminated quoted string"
  | unexpected operator => "Syntax error: \"" ++ operator ++ "\" unexpected"
  | unexpectedEnd => "Syntax error: end of file unexpected"

/-! ### Words -/

/-- Characters that separate words. -/
def isBlank (c : Char) : Bool := c == ' ' || c == '\t'

/-- Characters that end a word unless they are quoted. -/
def endsWord (c : Char) : Bool :=
  isBlank c || c == '\n' || c == ';' || c == '&' || c == '|' || c == '<' || c == '>' ||
    c == '(' || c == ')'

/-- Characters of the name of a variable. -/
def isNameChar (c : Char) : Bool := c.isAlphanum || c == '_'

/-- The length of an arithmetic expression up to its closing parentheses, at a depth of inner
ones. -/
def arithmeticLength? : Nat → List Char → Option Nat
  | _, [] => none
  | 0, ')' :: ')' :: _ => some 0
  | depth, c :: rest =>
    let depth := if c = '(' then depth + 1 else if c = ')' then depth - 1 else depth
    (arithmeticLength? depth rest).map (· + 1)

/-- The expansion behind a dollar, and the characters behind it. -/
def readExpansion (quoted : Bool) (cs : List Char) : WordPart × List Char :=
  match cs with
  | '(' :: '(' :: rest =>
    match arithmeticLength? 0 rest with
    | some n => (.arithmetic (rest.take n), rest.drop (n + 2))
    | none => (.literal ['$'], cs)
  | '{' :: rest =>
    let name := rest.takeWhile isNameChar
    match rest.drop name.length with
    | '}' :: more => (.parameter (String.ofList name) quoted, more)
    | _ => (.literal ['$'], cs)
  | '$' :: rest => (.parameter "$" quoted, rest)
  | '?' :: rest => (.parameter "?" quoted, rest)
  | _ =>
    let name := cs.takeWhile isNameChar
    if name.isEmpty then (.literal ['$'], cs)
    else (.parameter (String.ofList name) quoted, cs.drop name.length)

/-- Characters that a backslash escapes between double quotes. -/
def isEscapable (c : Char) : Bool := c == '$' || c == '\x60' || c == '"' || c == '\\'

/-- Reads what stands between double quotes, up to `bound` characters. -/
def readDouble : Nat → List Char → Except LineError (Word × List Char)
  | 0, _ | _, [] => .error .unterminatedQuote
  | bound + 1, c :: rest =>
    if c = '"' then .ok ([], rest)
    else if c = '\\' && (rest.head?.map isEscapable).getD false then do
      let (word, more) ← readDouble bound rest.tail
      .ok (.literal (rest.take 1) :: word, more)
    else if c = '$' then do
      let (part, more) := readExpansion true rest
      let (word, more) ← readDouble bound more
      .ok (part :: word, more)
    else do
      let (word, more) ← readDouble bound rest
      .ok (.literal [c] :: word, more)

/-- Reads a word, up to `bound` characters, and leaves what stands behind it. -/
def readWord : Nat → List Char → Except LineError (Word × List Char)
  | 0, cs => .ok ([], cs)
  | _, [] => .ok ([], [])
  | bound + 1, c :: rest =>
    if endsWord c then .ok ([], c :: rest)
    else if c = '\'' then
      let text := rest.takeWhile (· ≠ '\'')
      match rest.drop text.length with
      | [] => .error .unterminatedQuote
      | _ :: more => do
        let (word, more) ← readWord bound more
        .ok (.literal text :: word, more)
    else if c = '"' then do
      let (inside, more) ← readDouble bound rest
      let (word, more) ← readWord bound more
      .ok (.literal [] :: inside ++ word, more)
    else if c = '\\' then do
      let (word, more) ← readWord bound rest.tail
      .ok (.literal (rest.take 1) :: word, more)
    else if c = '$' then do
      let (part, more) := readExpansion false rest
      let (word, more) ← readWord bound more
      .ok (part :: word, more)
    else do
      let (word, more) ← readWord bound rest
      .ok (.literal [c] :: word, more)

/-! ### Tokens -/

/-- A word, redirection or operator. -/
inductive LineToken
  | word (parts : Word)
  | redirection (r : Redirection)
  | operator (text : String)
  deriving DecidableEq, Repr

/-- The redirection at the front, with what stands behind it: an output goes where another one
goes, or nowhere. -/
def redirectionAt? (cs : List Char) : Option (Redirection × List Char) :=
  let source : Nat × List Char :=
    match cs with
    | '1' :: '>' :: _ => (1, cs.tail)
    | '2' :: '>' :: _ => (2, cs.tail)
    | _ => (1, cs)
  match source.2 with
  | '>' :: '&' :: '1' :: rest => some (⟨source.1, .output 1⟩, rest)
  | '>' :: '&' :: '2' :: rest => some (⟨source.1, .output 2⟩, rest)
  | '>' :: rest =>
    let file := rest.dropWhile isBlank
    let nowhere := "/dev/null".toList
    if nowhere.isPrefixOf file then some (⟨source.1, .nowhere⟩, file.drop nowhere.length)
    else none
  | _ => none

/-- The operators, those of two characters first. -/
def operators : List String := ["&&", "||", ";;", ";", "\n", "&", "|", "<", ">", "(", ")"]

/-- The operator at the front. -/
def operatorAt? (cs : List Char) : Option String :=
  operators.find? fun o => o.toList.isPrefixOf cs

/-- The words, redirections and operators of a line of up to `bound` characters. -/
def tokens : Nat → List Char → Except LineError (List LineToken)
  | 0, _ | _, [] => .ok []
  | bound + 1, c :: rest =>
    if isBlank c then tokens bound rest
    else if c = '#' then tokens bound (rest.dropWhile (· ≠ '\n'))
    else
      match redirectionAt? (c :: rest) with
      | some (r, more) => do .ok (.redirection r :: (← tokens bound more))
      | none =>
        match operatorAt? (c :: rest) with
        | some o => do .ok (.operator o :: (← tokens bound ((c :: rest).drop o.length)))
        | none => do
          let (word, more) ← readWord (bound + 1) (c :: rest)
          .ok (.word word :: (← tokens bound more))

/-! ### Commands -/

/-- The condition that an operator puts on the next command. -/
def condition? : String → Option Condition
  | ";" | "\n" => some .always
  | "&&" => some .onSuccess
  | "||" => some .onFailure
  | _ => none

/-- Whether a command has neither words nor redirections. -/
def SimpleCommand.isEmpty (c : SimpleCommand) : Bool := c.words.isEmpty && c.redirections.isEmpty

/-- The commands that tokens make up, where `command` is the one that has been begun and
`condition` says when it is run. -/
def commandsOf (condition : Condition) (command : SimpleCommand) :
    List LineToken → Except LineError Line
  | [] =>
    if command.isEmpty then
      if condition = .always then .ok [] else .error .unexpectedEnd
    else .ok [(condition, command)]
  | .word w :: rest =>
    commandsOf condition { command with words := command.words ++ [w] } rest
  | .redirection r :: rest =>
    commandsOf condition { command with redirections := command.redirections ++ [r] } rest
  | .operator o :: rest =>
    match condition? o with
    | none => .error (.unexpected o)
    | some next =>
      if command.isEmpty then
        if o = "\n" then commandsOf condition command rest else .error (.unexpected o)
      else do .ok ((condition, command) :: (← commandsOf next ⟨[], []⟩ rest))

/-- The commands of a line. -/
def readLine (text : String) : Except LineError Line := do
  let cs := text.toList
  commandsOf .always ⟨[], []⟩ (← tokens (cs.length + 1) cs)

end Manifest.Shell
