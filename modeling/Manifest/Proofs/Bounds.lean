import Manifest.Proofs.Bounds.Evaluation
import Manifest.Proofs.Bounds.Lexing
import Manifest.Proofs.Bounds.Text
import Manifest.Proofs.Bounds.Tokens

/-!
# Nothing out of range

Cutting a text into tokens, reading the tokens, looking names and nodes up, reading references and
evaluating: each of these looks things up by number somewhere, and each of them is matched by a
version of it that fails where nothing stands under the number.  None of these versions ever fails.

The reasons are far apart.  The rules for tokens find whole characters, and quotes at both ends of
what they take for a string.  The grammar makes one operand more than arrows.  Scopes stay, and
their numbers are given out when they are added.

## Main results

* `accesses_in_range` — nothing that is looked up by number is missing, whatever the texts, the
  tokens, the names and the node are.
-/

namespace Manifest

open Evaluation

/-- For all texts, tokens and names, and for every evaluation of the collection of any units: the
versions that look before they reach do not fail and do the same, whatever number of tokens is taken
away there is a next one and one so many ahead, every arrow in a tree has its two operands, and the
numbers of scopes that an evaluation ends with name scopes. -/
theorem accesses_in_range :
    (∀ file text, Checked.lex? file text = some (lex file text)) ∧
    (∀ file tokens n, ∃ c, (Cursor.new file tokens).skip? n = some c ∧
      (∃ token c', c.advance? = some (token, c')) ∧
      ∀ ahead, (∃ token, c.peek? ahead = some token) ∧
        (n + ahead ≤ (TokenStream.ofTokens file tokens).tokens.length →
          c.peek? ahead = some (Grammar.front
            { TokenStream.ofTokens file tokens with
              tokens := (TokenStream.ofTokens file tokens).tokens.drop (n + ahead) }))) ∧
    (∀ file tokens ast, build file tokens = .ok ast → HaveOperandsIn ast.statements) ∧
    (∀ name : String, Checked.parent? name.toList = some (Name.parent name).toList) ∧
    (∀ (α : Type) (c : Collection) (pick : Definition → Option α) (name space : String),
      Checked.find? c pick name space = some (c.find? pick name space)) ∧
    (∀ (c : Collection) (name : String),
      Checked.nodeDefinition? c name = some (c.nodeDefinition? name)) ∧
    (∀ text, Checked.reference? text = some (Reference.ofText? text)) ∧
    ∀ (sources : List Source) (setting : Setting),
      Collection.ofSources sources = .ok setting.collection →
        (∀ fault, Checked.run fault setting = run setting) ∧
        ∀ catalog s, program setting (depthLimit setting.collection) (EvalState.start setting) =
          .ok catalog s → s.IsSound := by
  refine ⟨Checked.lex?_eq, Cursor.exists_skip?, fun _ _ _ => hasOperands_of_build,
    Checked.parent?_eq, fun _ => Checked.find?_eq, Checked.nodeDefinition?_eq,
    Checked.reference?_eq, fun sources setting h => ?_⟩
  have hoperands : setting.collection.HasOperands := Collection.hasOperands_of_ofSources h
  exact ⟨Checked.run_eq hoperands, fun _ _ => Checked.isSound_of_program hoperands⟩

namespace Sample

/-- A class in another one that it inherits from, and a chain of relationships between what they
declare. -/
def chained : List Source :=
  [⟨"site.pp", "class a \x7b notify \x7b 'n': \x7d \x7d " ++
    "class a::b inherits a \x7b $x = 1 notify \x7b \"m$\x7bx\x7d\": \x7d \x7d " ++
    "node 'web1' \x7b include a::b Notify['n'] -> Notify['m1'] ~> Class['a'] \x7d", ⟨1, 0⟩⟩]

/-- The evaluation of a collection for a node without facts. -/
def about (c : Collection) : Setting :=
  ⟨⟨"web1", .empty, none⟩, "production", c, .builtin, true⟩

end Sample

/-- The chain has three operands, which two arrows connect. -/
theorem accesses_in_range_sample :
    ∃ c, Collection.ofSources Sample.chained = .ok c ∧
      (run (Sample.about c)).1.toOption.map (fun catalog => catalog.edges.items.length) = some 7 ∧
      ∀ fault, Checked.run fault (Sample.about c) = run (Sample.about c) := by
  have hedges : ((Collection.ofSources Sample.chained).toOption.bind fun c =>
      (run (Sample.about c)).1.toOption.map fun catalog => catalog.edges.items.length) =
        some 7 := by
    decide +kernel
  obtain ⟨c, hc, hrun⟩ := Option.bind_eq_some_iff.mp hedges
  have hread : Collection.ofSources Sample.chained = .ok c := Except.eq_ok_of_toOption hc
  obtain ⟨-, -, -, -, -, -, -, hevaluation⟩ := accesses_in_range
  exact ⟨c, hread, hrun, (hevaluation Sample.chained (Sample.about c) hread).1⟩

end Manifest
