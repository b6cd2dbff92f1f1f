import Manifest.ParseError

/-!
# Reading a stream of tokens

The grammar reads tokens from the front of a stream. Behind the last token the stream shows the
end of input as often as it is asked.

Every loop and every nesting of the grammar has a bound. It is enough that the bound exceeds the
number of tokens that are left: each round of a loop and each level of nesting takes a token away.

## Main definitions

* `TokenStream` — the tokens that are left.
* `Parse` — a reader that changes the stream or fails.
* `peek`, `advance`, `eat`, `expect` — reading one token.
* `separatedList` — items with a sign between any two.
-/

namespace Manifest

/-- The tokens that are left, none of which is the end of input. -/
structure TokenStream where
  tokens : List Token
  /-- Where the end of input is reported. -/
  stop : Location
  deriving Repr

/-- The tokens before the first end of input. If there is none, the input ends where its last
token stands. -/
def TokenStream.ofTokens (file : String) (tokens : List Token) : TokenStream :=
  let isEnd (t : Token) : Bool := t.kind == .eof
  let stop : Location :=
    match tokens.find? isEnd with
    | some e => e.location
    | none => ((tokens.getLast?.map Token.location).getD ⟨file, 1, 1⟩)
  ⟨tokens.takeWhile fun t => !isEnd t, stop⟩

/-- A reader of tokens. -/
abbrev Parse (α : Type) := StateT TokenStream (Except ParseError) α

namespace Grammar

/-! ### One token -/

/-- The token at the front of a stream. -/
def front (s : TokenStream) : Token := s.tokens.head?.getD ⟨.eof, s.stop⟩

/-- The next token, which stays in the stream. -/
def peek : Parse Token := fun s => .ok (front s, s)

/-- What the token behind the next one is. -/
def peekSecond : Parse TokenKind := fun s =>
  .ok ((front { s with tokens := s.tokens.tail }).kind, s)

/-- Takes the next token away. -/
def advance : Parse Token := fun s => .ok (front s, { s with tokens := s.tokens.tail })

/-- Fails at the next token. -/
def unexpected {α : Type} (expected : Expectation) : Parse α := fun s =>
  .error (.unexpectedToken expected (front s).kind (front s).location)

/-- Whether the next token is of a kind. -/
def isNext (kind : TokenKind) : Parse Bool := do return (← peek).kind == kind

/-- Takes the next token away if it is of a kind, and says whether it was. -/
def eat (kind : TokenKind) : Parse Bool := do
  if (← peek).kind == kind then
    let _ ← advance
    return true
  else return false

/-- Takes a token of a kind away; any other one is an error. -/
def expect (kind : TokenKind) : Parse Token := do
  if (← peek).kind == kind then advance else unexpected (.token kind)

/-- Takes a name away; any other token is an error. -/
def expectName : Parse String := do
  match (← peek).kind with
  | .name text =>
    let _ ← advance
    return text
  | _ => unexpected .name

/-! ### Lists -/

/-- Reads items behind those that are `found`, with a separator between any two, until a token
stops the list or no separator follows. A separator may stand before a token that stops. -/
def separatedList {α : Type} (separator : Symbol) (stops : TokenKind → Bool)
    (item : List α → Parse α) : Nat → List α → Parse (List α)
  | 0, found => return found
  | bound + 1, found => do
    if stops (← peek).kind then return found
    let next ← item found
    if ← eat (.symbol separator) then
      separatedList separator stops item bound (found ++ [next])
    else return found ++ [next]

/-- Reads items up to a closing sign, with commas between them. -/
def enclosedList {α : Type} (close : Symbol) (item : List α → Parse α) (bound : Nat) :
    Parse (List α) := do
  let found ← separatedList .comma (· == .symbol close) item bound []
  let _ ← expect (.symbol close)
  return found

end Grammar

end Manifest
