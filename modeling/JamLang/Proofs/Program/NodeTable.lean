import JamLang.Proofs.Program.Accounting
import JamLang.Proofs.Program.Shape
import JamLang.Proofs.Tree.Table

/-!
# The nodes of a program

The nodes of a tree that was parsed obey the node table, and each of them stands where some token of
the source stands.  What the table asks of texts comes from the lexer: a word that has a meaning of
its own never becomes a name.  What it asks of children comes from the grammar.
-/

namespace JamLang

open Node

variable {source : String} {tree : Node}

/-- Every node of a parsed tree is located by a token that stands in the source. -/
theorem standsIn_of_parse (parses : parse source = .ok tree) :
    ∀ node ∈ tree.nodes, ∃ token, node.loc = token.loc ∧
      Lexer.StandsIn .start source.toList token := by
  obtain ⟨tokens, lexed, parses⟩ := tokens_of_parse parses
  have located := (account_of_parseTokens parses).located
  rw [nodesAll_cons, nodesAll_nil, List.append_nil] at located
  intro node isNode
  obtain ⟨token, isToken, same⟩ := located node isNode
  exact ⟨token, same, Lexer.standsIn_of_mem_tokens (by rwa [lexed])⟩

/-- A parsed tree follows the node table, and its lines and columns are counted from one. -/
theorem parse_followsTable (source : String) (tree : Node) (parses : parse source = .ok tree) :
    tree.FollowsTable ∧ ∀ node ∈ tree.nodes, 1 ≤ node.loc.line ∧ 1 ≤ node.loc.column := by
  refine ⟨(wellFormed_of_parse parses).followsTable, fun node isNode => ?_⟩
  obtain ⟨token, same, stands⟩ := standsIn_of_parse parses node isNode
  obtain ⟨line, -, column, -⟩ := stands.bounds
  rw [same]
  exact ⟨line, column⟩

/-- A `let` whose definition calls a function on the spot, with a name that only starts like a
keyword. -/
theorem parse_followsTable_letIn :
    let function := Node.mapTo [.var "x" ⟨1, 17⟩] (.unary "-" (.var "x" ⟨1, 23⟩) ⟨1, 22⟩) ⟨1, 13⟩
    let applied := Node.call function [.constant (.int 7) "int" ⟨1, 26⟩]
    let body := Node.binary "=" (.var "iff" ⟨1, 33⟩) (.primitive "rest" ⟨1, 39⟩) ⟨1, 37⟩
    let tree := Node.letIn [.definition "iff" applied ⟨1, 5⟩] body ⟨1, 1⟩
    parse "let iff := (map x to -x)(7); in iff = rest" = .ok tree ∧ tree.FollowsTable ∧
      ∀ node ∈ tree.nodes, 1 ≤ node.loc.line ∧ 1 ≤ node.loc.column := by
  intro function applied body tree
  have lexed : Lexer.tokens "let iff := (map x to -x)(7); in iff = rest" =
      ([⟨.letWord, "let", ⟨1, 1⟩⟩, ⟨.identifier, "iff", ⟨1, 5⟩⟩, ⟨.bind, ":=", ⟨1, 9⟩⟩,
        ⟨.leftParen, "(", ⟨1, 12⟩⟩, ⟨.mapWord, "map", ⟨1, 13⟩⟩, ⟨.identifier, "x", ⟨1, 17⟩⟩,
        ⟨.toWord, "to", ⟨1, 19⟩⟩, ⟨.operator, "-", ⟨1, 22⟩⟩, ⟨.identifier, "x", ⟨1, 23⟩⟩,
        ⟨.rightParen, ")", ⟨1, 24⟩⟩, ⟨.leftParen, "(", ⟨1, 25⟩⟩, ⟨.integer, "7", ⟨1, 26⟩⟩,
        ⟨.rightParen, ")", ⟨1, 27⟩⟩, ⟨.semicolon, ";", ⟨1, 28⟩⟩, ⟨.inWord, "in", ⟨1, 30⟩⟩,
        ⟨.identifier, "iff", ⟨1, 33⟩⟩, ⟨.operator, "=", ⟨1, 37⟩⟩,
        ⟨.primitive, "rest", ⟨1, 39⟩⟩], none) := by decide +kernel
  have parses : parse "let iff := (map x to -x)(7); in iff = rest" = .ok tree :=
    (parse_of_tokens lexed).trans (by decide +kernel)
  exact ⟨parses, parse_followsTable _ _ parses⟩

end JamLang
