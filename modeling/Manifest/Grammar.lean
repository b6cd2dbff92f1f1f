import Manifest.Grammar.Statement
import Manifest.Token.Lexer
import Manifest.Tree.Placement

/-!
# From text to tree

## Main definitions

* `build` — the tree for a list of tokens.
* `parse` — the tree for a text.
-/

namespace Manifest

/-- The tree for a list of tokens, all of whose definitions stand where they may. -/
def build (file : String) (tokens : List Token) : Except ParseError Ast :=
  let stream := TokenStream.ofTokens file tokens
  match (Grammar.program (stream.tokens.length + 1)).run stream with
  | .error e => .error e
  | .ok (statements, _) =>
    let ast : Ast := ⟨file, statements⟩
    match ast.misplaced? with
    | some fault => .error (.misplaced fault)
    | none => .ok ast

/-- The tree for a text. -/
def parse (file text : String) : Except ParseError Ast :=
  match lex file text with
  | .error e => .error e
  | .ok tokens => build file tokens

end Manifest
