import JamLang.Proofs.Grammar.Accounting
import JamLang.Proofs.Program.Acceptance
import JamLang.Proofs.Program.Unreadable

/-!
# Every token is accounted for in the tree

Whatever tokens the parser accepts, it loses none of them, uses none twice and does not change their
order.  A walk through the tree comes to nodes that are made of the tokens with a meaning of their
own, one after the other, each at the location of its token.  All other words and signs are as many
as the nodes of the tree need for their notation.
-/

namespace JamLang

open Grammar

namespace Node

/-- The number of commas between the arguments of a call or the variables of a function. -/
def separators (node : Node) : Nat :=
  if node.kind ∈ [NodeKind.call, .mapTo] then node.children.length - 1 else 0

/-- The marks that belong to the notation of one kind of nodes, with that kind. -/
def owners : List (TokenKind × NodeKind) :=
  [(.thenWord, .conditional), (.elseWord, .conditional), (.inWord, .letIn), (.toWord, .mapTo),
   (.bind, .definition), (.semicolon, .definition)]

theorem count_marks_of_owner {mark : TokenKind} {kind : NodeKind} (owns : (mark, kind) ∈ owners)
    (node : Node) : node.marks.count mark = if node.kind = kind then 1 else 0 := by
  unfold marks
  generalize node.kind = kind'
  simp only [owners, List.mem_cons, Prod.mk.injEq, List.not_mem_nil, or_false] at owns
  rcases owns with ⟨rfl, rfl⟩ | ⟨rfl, rfl⟩ | ⟨rfl, rfl⟩ | ⟨rfl, rfl⟩ | ⟨rfl, rfl⟩ | ⟨rfl, rfl⟩ <;>
    cases kind' <;> simp [List.count_replicate]

theorem count_flatMap_marks {mark : TokenKind} {kind : NodeKind} (owns : (mark, kind) ∈ owners)
    (nodes : List Node) : (nodes.flatMap marks).count mark = (nodes.map Node.kind).count kind := by
  induction nodes with
  | nil => rfl
  | cons node nodes ih =>
    rw [List.flatMap_cons, List.count_append, ih, count_marks_of_owner owns, List.map_cons,
      List.count_cons, Nat.add_comm]
    simp

/-- The number of commas in the notation of some nodes. -/
def allSeparators : List Node → Nat
  | [] => 0
  | node :: nodes => node.separators + allSeparators nodes

theorem count_comma_marks (nodes : List Node) :
    (nodes.flatMap marks).count .comma = allSeparators nodes := by
  have ofNode (node : Node) : node.marks.count .comma = node.separators := by
    unfold marks separators
    cases node.kind <;> simp
  induction nodes with
  | nil => rfl
  | cons node nodes ih =>
    rw [List.flatMap_cons, List.count_append, ih, ofNode, allSeparators]

end Node

/-- The tokens are what the tree is made of. -/
structure AccountedFor (tokens : List Token) (tree : Node) : Prop where
  /-- The nodes that the walk comes to are those of the tokens that have one, in their order. -/
  matched : List.Forall₂ Represents (tokens.filter Token.isCarrier) tree.walk
  /-- The nodes that the walk leaves out stand where their first part stands. -/
  placed : ∀ node ∈ tree.nodes, node.IsPlaced
  thenWords :
    (tokens.map Token.kind).count .thenWord = (tree.nodes.map Node.kind).count .conditional
  elseWords :
    (tokens.map Token.kind).count .elseWord = (tree.nodes.map Node.kind).count .conditional
  inWords : (tokens.map Token.kind).count .inWord = (tree.nodes.map Node.kind).count .letIn
  toWords : (tokens.map Token.kind).count .toWord = (tree.nodes.map Node.kind).count .mapTo
  binds : (tokens.map Token.kind).count .bind = (tree.nodes.map Node.kind).count .definition
  semicolons :
    (tokens.map Token.kind).count .semicolon = (tree.nodes.map Node.kind).count .definition
  commas : (tokens.map Token.kind).count .comma = Node.allSeparators tree.nodes
  parentheses :
    (tokens.map Token.kind).count .leftParen = (tokens.map Token.kind).count .rightParen

section

variable {tokens : List Token} {tree : Node}

/-- There are as many tokens of a mark as there are nodes to own it. -/
theorem Grammar.Account.count_owner (account : Account tokens [tree] []) {mark : TokenKind}
    {kind : NodeKind} (owns : (mark, kind) ∈ Node.owners) :
    (tokens.map Token.kind).count mark = (tree.nodes.map Node.kind).count kind := by
  have areMarks : ∀ owner ∈ Node.owners, owner.1 ∈ TokenKind.marks := by decide
  -- Nothing is owed around a program, so all marks are claimed by nodes of the tree.
  have claimed := account.claimed mark (areMarks _ owns)
  rwa [Node.count_flatMap_marks owns, Node.nodesAll_cons, Node.nodesAll_nil, List.append_nil,
    List.count_nil, Nat.add_zero] at claimed

/-- An account that owes nothing leaves no token out. -/
theorem Grammar.Account.accountedFor (account : Account tokens [tree] []) :
    AccountedFor tokens tree where
  matched := by
    have matched := account.matched
    rwa [Node.walkAll_cons, Node.walkAll_nil, List.append_nil] at matched
  placed := by
    have placed := account.placed
    rwa [Node.nodesAll_cons, Node.nodesAll_nil, List.append_nil] at placed
  thenWords := account.count_owner (by decide)
  elseWords := account.count_owner (by decide)
  inWords := account.count_owner (by decide)
  toWords := account.count_owner (by decide)
  binds := account.count_owner (by decide)
  semicolons := account.count_owner (by decide)
  commas := by
    have claimed := account.claimed .comma (by decide)
    rwa [Node.count_comma_marks, Node.nodesAll_cons, Node.nodesAll_nil, List.append_nil,
      List.count_nil, Nat.add_zero] at claimed
  parentheses := account.balanced

theorem account_of_parseTokens (parses : parseTokens tokens = .ok tree) :
    Account tokens [tree] [] :=
  accounted_of_derives (derives_of_parseTokens parses) (readable_of_parseTokens parses)

end

/-- Every token of a list or a text that has a tree is accounted for in the tree. -/
theorem parse_accountedFor (tree : Node) :
    (∀ tokens, parseTokens tokens = .ok tree → AccountedFor tokens tree) ∧
      ∀ source, parse source = .ok tree →
        ∃ tokens, Lexer.tokens source = (tokens, none) ∧ AccountedFor tokens tree := by
  refine ⟨fun tokens parses => (account_of_parseTokens parses).accountedFor,
    fun source parses => ?_⟩
  obtain ⟨tokens, lexed, parses⟩ := tokens_of_parse parses
  exact ⟨tokens, lexed, (account_of_parseTokens parses).accountedFor⟩

/-- A call with two arguments: the comma is its only separator, and its callee comes first. -/
theorem parse_accountedFor_call :
    let tokens : List Token :=
      [⟨.identifier, "f", ⟨1, 1⟩⟩, ⟨.leftParen, "(", ⟨1, 2⟩⟩, ⟨.integer, "1", ⟨1, 3⟩⟩,
       ⟨.comma, ",", ⟨1, 4⟩⟩, ⟨.operator, "-", ⟨1, 6⟩⟩, ⟨.integer, "2", ⟨1, 7⟩⟩,
       ⟨.rightParen, ")", ⟨1, 8⟩⟩]
    let one := Node.constant (.int 1) "int" ⟨1, 3⟩
    let two := Node.constant (.int 2) "int" ⟨1, 7⟩
    let tree := Node.call (.var "f" ⟨1, 1⟩) [one, .unary "-" two ⟨1, 6⟩]
    parseTokens tokens = .ok tree ∧ AccountedFor tokens tree ∧
      parse "f(1, -2)" = .ok tree ∧
      ∃ tokens, Lexer.tokens "f(1, -2)" = (tokens, none) ∧ AccountedFor tokens tree := by
  intro tokens one two tree
  have lexed : Lexer.tokens "f(1, -2)" = (tokens, none) := by decide +kernel
  have parses : parseTokens tokens = .ok tree := by decide +kernel
  have parses' : parse "f(1, -2)" = .ok tree := (parse_of_tokens lexed).trans parses
  exact ⟨parses, (parse_accountedFor tree).1 tokens parses, parses',
    (parse_accountedFor tree).2 _ parses'⟩

end JamLang
