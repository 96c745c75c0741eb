import JamLang.Proofs.Grammar.Readable
import JamLang.Proofs.Tree.Walk
import Mathlib.Data.List.Forall2

/-!
# The tokens of a phrase in its tree

Every token of a phrase is there for something in the tree that the phrase stands for.  A constant,
a name, an operator, and the first word of a conditional, a `let` or a `map` each stand for a node
of their own; a walk through the tree comes to these nodes in the order of the tokens.  The other
words and signs belong to the notation of some node (`Node.marks`), except that parentheses may also
surround any expression.

An account of some tokens relates them to several trees, and lists the marks that the node around
these trees will claim for its notation.  Accounts are put together like phrases are, so the account
of a phrase is made by induction on its derivation.
-/

namespace JamLang

/-! ## Tokens that stand for a node -/

/-- The kinds of tokens that stand for a node of their own. -/
def TokenKind.carriers : List TokenKind :=
  [.integer, .boolean, .null, .identifier, .primitive, .operator, .ifWord, .letWord, .mapWord]

/-- The kinds of words and signs that only belong to the notation of a node. -/
def TokenKind.marks : List TokenKind :=
  [.thenWord, .elseWord, .inWord, .toWord, .bind, .semicolon, .comma]

/-- The token stands for a node of its own. -/
def Token.isCarrier (token : Token) : Bool :=
  token.kind ∈ TokenKind.carriers

/-- The node is made of the token, and stands where the token stands. -/
inductive Represents : Token → Node → Prop where
  | constant {token : Token} {literal : Literal} (isConstant : token.kind ∈ TokenKind.constants)
      (isLiteral : token.literal = .ok literal) :
      Represents token (.constant literal token.kind.name.toLower token.loc)
  | var {token : Token} (isIdentifier : token.kind = .identifier) :
      Represents token (.var token.text token.loc)
  | primitive {token : Token} (isPrimitive : token.kind = .primitive) :
      Represents token (.primitive token.text token.loc)
  | unary {token : Token} {operand : Node} (isOperator : token.kind = .operator) :
      Represents token (.unary token.text operand token.loc)
  | binary {token : Token} {left right : Node} (isOperator : token.kind = .operator) :
      Represents token (.binary token.text left right token.loc)
  | conditional {token : Token} {condition consequence otherwise : Node}
      (isIf : token.kind = .ifWord) :
      Represents token (.conditional condition consequence otherwise token.loc)
  | letIn {token : Token} {definitions : List Node} {body : Node} (isLet : token.kind = .letWord) :
      Represents token (.letIn definitions body token.loc)
  | mapTo {token : Token} {names : List Node} {body : Node} (isMap : token.kind = .mapWord) :
      Represents token (.mapTo names body token.loc)

theorem Represents.isCarrier {token : Token} {node : Node} (represents : Represents token node) :
    token.isCarrier = true := by
  have constants : ∀ kind ∈ TokenKind.constants, kind ∈ TokenKind.carriers := by decide
  cases represents with
  | constant isConstant => exact decide_eq_true (constants _ isConstant)
  | var isKind | primitive isKind | unary isKind | binary isKind | conditional isKind
  | letIn isKind | mapTo isKind => simp [Token.isCarrier, isKind, TokenKind.carriers]

theorem Represents.loc_eq {token : Token} {node : Node} (represents : Represents token node) :
    node.loc = token.loc := by
  cases represents <;> rfl

/-! ## Marks -/

namespace Node

/-- The words and signs of the notation of a node, apart from its own token and from parentheses. -/
def marks (node : Node) : List TokenKind :=
  match node.kind with
  | .conditional => [.thenWord, .elseWord]
  | .letIn => [.inWord]
  | .mapTo => List.replicate (node.children.length - 1) .comma ++ [.toWord]
  | .call => List.replicate (node.children.length - 1) .comma
  | .definition => [.bind, .semicolon]
  | _ => []

/-- A call stands where its callee stands, and a definition where its variable stands, whose name it
has. -/
structure IsPlaced (node : Node) : Prop where
  ofCall : node.kind = .call → ∃ callee arguments, node = .call callee arguments
  ofDefinition : node.kind = .definition → ∃ name right loc, node = .definition name right loc

end Node

theorem Represents.isPlaced {token : Token} {node : Node} (represents : Represents token node) :
    node.IsPlaced := by
  cases represents <;>
    exact ⟨fun isCall => (nomatch isCall), fun isDefinition => (nomatch isDefinition)⟩

/-! ## Accounts -/

namespace Grammar

open Node

/-- The trees are what the tokens stand for, and all the marks among the tokens are claimed by nodes
of the trees, except for those that are still owed. -/
structure Account (tokens : List Token) (trees : List Node) (owed : List TokenKind) : Prop where
  matched : List.Forall₂ Represents (tokens.filter Token.isCarrier) (walkAll trees)
  placed : ∀ node ∈ nodesAll trees, node.IsPlaced
  located : ∀ node ∈ nodesAll trees, ∃ token ∈ tokens, node.loc = token.loc
  claimed : ∀ kind ∈ TokenKind.marks,
    (tokens.map Token.kind).count kind =
      ((nodesAll trees).flatMap Node.marks).count kind + owed.count kind
  balanced : (tokens.map Token.kind).count .leftParen = (tokens.map Token.kind).count .rightParen

variable {token opening closing : Token} {tokens first second : List Token} {node : Node}
  {trees trees' parts : List Node} {owed owed' : List TokenKind}

theorem account_nil : Account [] [] [] where
  matched := .nil
  placed := by simp
  located := by simp
  claimed := by simp
  balanced := rfl

theorem Account.append (account : Account first trees owed)
    (account' : Account second trees' owed') :
    Account (first ++ second) (trees ++ trees') (owed ++ owed') where
  matched := by
    rw [List.filter_append, walkAll_append]
    exact List.rel_append account.matched account'.matched
  placed := by
    rw [nodesAll_append, List.forall_mem_append]
    exact ⟨account.placed, account'.placed⟩
  located := by
    rw [nodesAll_append, List.forall_mem_append]
    constructor
    · intro node isNode
      obtain ⟨token, isToken, same⟩ := account.located node isNode
      exact ⟨token, List.mem_append_left _ isToken, same⟩
    · intro node isNode
      obtain ⟨token, isToken, same⟩ := account'.located node isNode
      exact ⟨token, List.mem_append_right _ isToken, same⟩
  claimed kind isMark := by
    have first := account.claimed kind isMark
    have second := account'.claimed kind isMark
    simp only [List.map_append, nodesAll_append, List.flatMap_append, List.count_append]
    omega
  balanced := by
    have first := account.balanced
    have second := account'.balanced
    simp only [List.map_append, List.count_append]
    omega

theorem account_mark {kind : TokenKind} (isKind : token.kind = kind)
    (isMark : kind ∈ TokenKind.marks) : Account [token] [] [kind] := by
  have others : ∀ kind ∈ TokenKind.marks, kind ∉ TokenKind.carriers ∧ kind ≠ .leftParen ∧
      kind ≠ .rightParen := by decide
  obtain ⟨notCarrier, notOpening, notClosing⟩ := others _ isMark
  exact {
    matched := by simp [Token.isCarrier, isKind, notCarrier]
    placed := by simp
    located := by simp
    claimed := by simp [isKind]
    balanced := by simp [isKind, notOpening, notClosing] }

theorem Account.inParens (account : Account tokens trees owed)
    (isOpening : opening.kind = .leftParen) (isClosing : closing.kind = .rightParen) :
    Account (opening :: (tokens ++ [closing])) trees owed where
  matched := by
    have openingMark : opening.isCarrier = false := by
      simp [Token.isCarrier, isOpening, TokenKind.carriers]
    have closingMark : closing.isCarrier = false := by
      simp [Token.isCarrier, isClosing, TokenKind.carriers]
    simpa [openingMark, closingMark] using account.matched
  placed := account.placed
  located node isNode := by
    obtain ⟨token, isToken, same⟩ := account.located node isNode
    exact ⟨token, by simp [isToken], same⟩
  claimed kind isMark := by
    have others : ∀ kind ∈ TokenKind.marks, kind ≠ .leftParen ∧ kind ≠ .rightParen := by decide
    obtain ⟨notOpening, notClosing⟩ := others kind isMark
    have inner := account.claimed kind isMark
    simp [isOpening, isClosing, notOpening.symm, notClosing.symm, inner]
  balanced := by
    have inner := account.balanced
    simp [isOpening, isClosing, inner]

/-- A node claims its marks, besides what the nodes of its parts claim. -/
theorem count_marks_of_perm (below : node.nodes.Perm (node :: nodesAll parts)) (kind : TokenKind) :
    ((nodesAll [node]).flatMap Node.marks).count kind =
      ((nodesAll parts).flatMap Node.marks).count kind + node.marks.count kind := by
  have same := (below.flatMap_right Node.marks).count_eq kind
  rw [nodesAll_cons, nodesAll_nil, List.append_nil, same, List.flatMap_cons, List.count_append]
  omega

/-- Parts around a token make the node of that token, which claims all that is owed. -/
theorem Account.own (before : Account first parts owed) (after : Account second parts' owed')
    (represents : Represents token node)
    (walks : node.walk = walkAll parts ++ node :: walkAll parts')
    (below : node.nodes.Perm (node :: nodesAll (parts ++ parts')))
    (claims : node.marks = owed ++ owed') : Account (first ++ token :: second) [node] [] := by
  have both := before.append after
  have isNode : ∀ other, other ∈ nodesAll [node] ↔
      other = node ∨ other ∈ nodesAll (parts ++ parts') := by
    intro other
    rw [nodesAll_cons, nodesAll_nil, List.append_nil, below.mem_iff, List.mem_cons]
  have others : ∀ kind ∈ TokenKind.carriers, kind ∉ TokenKind.marks ∧ kind ≠ .leftParen ∧
      kind ≠ .rightParen := by decide
  obtain ⟨notMark, notOpening, notClosing⟩ := others _ (of_decide_eq_true represents.isCarrier)
  exact {
    matched := by
      rw [List.filter_append, List.filter_cons_of_pos represents.isCarrier, walkAll_cons, walks,
        walkAll_nil, List.append_nil]
      exact List.rel_append before.matched (.cons represents after.matched)
    placed := by
      intro other isOther
      rcases (isNode other).1 isOther with rfl | isPart
      · exact represents.isPlaced
      · exact both.placed other isPart
    located := by
      intro other isOther
      rcases (isNode other).1 isOther with rfl | isPart
      · exact ⟨token, by simp, represents.loc_eq⟩
      · obtain ⟨token', isToken, same⟩ := both.located other isPart
        exact ⟨token', List.mem_append.2 ((List.mem_append.1 isToken).imp_right (.tail _)), same⟩
    claimed := by
      intro kind isMark
      have differs : token.kind ≠ kind := fun same => notMark (same ▸ isMark)
      have claimed := both.claimed kind isMark
      rw [count_marks_of_perm below, claims]
      simpa [List.count_cons, differs] using claimed
    balanced := by
      have balanced := both.balanced
      simpa [List.count_cons, notOpening, notClosing] using balanced }

/-- Parts make a node without a token of its own, which claims all that is owed. -/
theorem Account.tokenless (account : Account tokens parts owed) (walks : node.walk = walkAll parts)
    (below : node.nodes.Perm (node :: nodesAll parts)) (claims : node.marks = owed)
    (isPlaced : node.IsPlaced) (stands : ∃ part ∈ nodesAll parts, node.loc = part.loc) :
    Account tokens [node] [] := by
  have isNode : ∀ other, other ∈ nodesAll [node] ↔ other = node ∨ other ∈ nodesAll parts := by
    intro other
    rw [nodesAll_cons, nodesAll_nil, List.append_nil, below.mem_iff, List.mem_cons]
  exact {
    matched := by
      rw [walkAll_cons, walks, walkAll_nil, List.append_nil]
      exact account.matched
    placed := by
      intro other isOther
      rcases (isNode other).1 isOther with rfl | isPart
      · exact isPlaced
      · exact account.placed other isPart
    located := by
      intro other isOther
      rcases (isNode other).1 isOther with rfl | isPart
      · obtain ⟨part, isPart, same⟩ := stands
        obtain ⟨token, isToken, same'⟩ := account.located part isPart
        exact ⟨token, isToken, same.trans same'⟩
      · exact account.located other isPart
    claimed := by
      intro kind isMark
      rw [count_marks_of_perm below, claims]
      exact account.claimed kind isMark
    balanced := account.balanced }

/-! ## The account of a phrase -/

/-- What the account of a phrase says, for each kind of phrases.  The commas of a list are owed by
the node whose list it is. -/
def Accounted : (symbol : Nonterminal) → List Token → symbol.Meaning → Prop
  | .expression, tokens, tree | .term, tokens, tree | .factor, tokens, tree
  | .definition, tokens, tree => Account tokens [tree] []
  | .operations, tokens, operations => ∀ before left, Account before [left] [] →
    Account (before ++ tokens) [applyOperations left operations] []
  | .arguments, tokens, trees | .variables, tokens, trees =>
    Account tokens trees (List.replicate (trees.length - 1) .comma)
  | .argumentList, tokens, trees | .variableList, tokens, trees =>
    ∃ head tail, trees = head :: tail ∧ Account tokens trees (List.replicate tail.length .comma)
  | .definitions, tokens, trees => Account tokens trees []

/-- A body is kept before the other parts, but written behind them. -/
theorem nodes_perm_of_body (kind : NodeKind) (children : List Node) (body : Node) (loc : Loc)
    (type : Option String) :
    (Node.mk kind (.node body) children loc type).nodes.Perm
      (.mk kind (.node body) children loc type :: nodesAll (children ++ [body])) := by
  rw [nodesAll_append, nodesAll_cons, nodesAll_nil, List.append_nil]
  exact .cons _ List.perm_append_comm

theorem literal_of_readable (isInteger : token.kind = .integer)
    (readable : token.kind = .integer → ∃ value, Text.readInteger token.text = .ok value) :
    token.literal = .ok (.int (integerOf token)) := by
  obtain ⟨value, isRead⟩ := readable isInteger
  simp [Token.literal, integerOf, isInteger, isRead]

theorem account_leaf (represents : Represents token node) (walks : node.walk = [node])
    (noParts : node.nodes = [node]) (noMarks : node.marks = []) : Account [token] [node] [] :=
  account_nil.own account_nil represents walks (.of_eq noParts) noMarks

/-- A token of a literal stands for the constant whose type is named after its kind. -/
theorem account_literal {kind : TokenKind} {literal : Literal} {type : String}
    (isKind : token.kind = kind) (isConstant : kind ∈ TokenKind.constants)
    (isType : kind.name.toLower = type) (isLiteral : token.literal = .ok literal) :
    Account [token] [.constant literal type token.loc] [] := by
  subst isKind isType
  exact account_leaf (.constant isConstant isLiteral) rfl rfl rfl

/-- The tokens of a phrase are all accounted for. -/
theorem accounted_of_derives {symbol : Nonterminal} {tokens : List Token} {meaning : symbol.Meaning}
    (derives : Derives symbol tokens meaning) (readable : Readable tokens) :
    Accounted symbol tokens meaning := by
  -- In each case the parts are put together with the marks between them, so that what is owed is
  -- the notation of the node, which claims it.
  induction derives with
  | conditional isIf _ isThen _ isElse _ ihCondition ihConsequence ihOtherwise =>
    have condition := ihCondition readable.of_cons.left
    have consequence := ihConsequence readable.of_cons.right.of_cons.left
    have otherwise := ihOtherwise readable.of_cons.right.of_cons.right.of_cons
    have parts := condition.append ((account_mark isThen (by decide)).append
      (consequence.append ((account_mark isElse (by decide)).append otherwise)))
    exact account_nil.own parts (.conditional isIf) (by simp) (.refl _) rfl
  | letIn isLet _ isIn _ ihDefinitions ihBody =>
    have definitions := ihDefinitions readable.of_cons.left
    have body := ihBody readable.of_cons.right.of_cons
    have parts := definitions.append ((account_mark isIn (by decide)).append body)
    exact account_nil.own parts (.letIn isLet) (by simp) (nodes_perm_of_body ..) rfl
  | mapTo isMap _ isTo _ ihVariables ihBody =>
    have names := ihVariables readable.of_cons.left
    have body := ihBody readable.of_cons.right.of_cons
    have parts := names.append ((account_mark isTo (by decide)).append body)
    exact account_nil.own parts (.mapTo isMap) (by simp) (nodes_perm_of_body ..) rfl
  | operation _ _ ihFirst ihOperations =>
    exact ihOperations readable.right _ _ (ihFirst readable.left)
  | noOperations =>
    intro before left account
    rwa [List.append_nil]
  | moreOperations isOperator _ _ _ ihRight ihOperations =>
    intro before left account
    have right := ihRight readable.of_cons.left
    have joined := account.own right (.binary isOperator) (by simp) (.refl _) rfl
    have all := ihOperations readable.of_cons.right _ _ joined
    rwa [List.append_assoc] at all
  | unary isOperator _ _ ihOperand =>
    exact account_nil.own (ihOperand readable.of_cons) (.unary isOperator) (by simp) (.refl _) rfl
  | integer isInteger =>
    have isLiteral := literal_of_readable isInteger (readable_cons.1 readable).1
    exact account_literal isInteger (by decide) (by decide +kernel) isLiteral
  | @boolean token isBoolean =>
    have isLiteral : token.literal = .ok (.bool (token.text = "true")) := by
      simp [Token.literal, isBoolean]
    exact account_literal isBoolean (by decide) (by decide +kernel) isLiteral
  | @null token isNull =>
    have isLiteral : token.literal = .ok .null := by simp [Token.literal, isNull]
    exact account_literal isNull (by decide) (by decide +kernel) isLiteral
  | uncalled _ ihFactor => exact ihFactor readable
  | @call _ _ _ _ callee arguments _ isOpening _ isClosing ihCallee ihArguments =>
    -- A call has no token: its parentheses balance, and its commas are owed by the arguments.
    have first := ihCallee readable.left
    have second := ihArguments readable.right.of_cons.left
    have parts := first.append (second.inParens isOpening isClosing)
    have isPart : callee ∈ nodesAll ([callee] ++ arguments) := by simp [nodes_eq_cons]
    exact parts.tokenless (by simp) (.refl _) rfl ⟨fun _ => ⟨_, _, rfl⟩, nofun⟩
      ⟨callee, isPart, rfl⟩
  | group isOpening _ isClosing ihInner =>
    exact (ihInner readable.of_cons.left).inParens isOpening isClosing
  | primitive isPrimitive => exact account_leaf (.primitive isPrimitive) rfl rfl rfl
  | identifier isIdentifier => exact account_leaf (.var isIdentifier) rfl rfl rfl
  | noArguments | noVariables => exact account_nil
  | someArguments _ ihList | someVariables _ ihList =>
    obtain ⟨head, tail, rfl, account⟩ := ihList readable
    exact account
  | lastArgument _ ihTree => exact ⟨_, [], rfl, ihTree readable⟩
  | moreArguments _ isComma _ ihFirst ihRest =>
    obtain ⟨head, tail, rfl, rest⟩ := ihRest readable.right.of_cons
    have first := ihFirst readable.left
    exact ⟨_, _, rfl, first.append ((account_mark isComma (by decide)).append rest)⟩
  | lastVariable isIdentifier =>
    exact ⟨_, [], rfl, account_leaf (.var isIdentifier) rfl rfl rfl⟩
  | moreVariables isIdentifier isComma _ ihRest =>
    obtain ⟨head, tail, rfl, rest⟩ := ihRest readable.of_cons.of_cons
    have first := account_leaf (.var isIdentifier) rfl rfl rfl
    exact ⟨_, _, rfl, first.append ((account_mark isComma (by decide)).append rest)⟩
  | lastDefinition _ ihTree => exact ihTree readable
  | moreDefinitions _ _ ihFirst ihRest =>
    exact (ihFirst readable.left).append (ihRest readable.right)
  | definition isIdentifier isBind _ isSemicolon ihRight =>
    -- The name of a definition is the variable below it, so the definition has no token either.
    have name := account_leaf (.var isIdentifier) rfl rfl rfl
    have right := ihRight readable.of_cons.of_cons.left
    have parts := name.append ((account_mark isBind (by decide)).append
      (right.append (account_mark isSemicolon (by decide))))
    exact parts.tokenless (by simp) (.refl _) rfl ⟨nofun, fun _ => ⟨_, _, _, rfl⟩⟩
      ⟨_, .head _, rfl⟩

end Grammar

end JamLang
