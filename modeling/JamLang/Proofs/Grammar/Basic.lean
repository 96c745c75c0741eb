import JamLang.Leaf

/-!
# The grammar of programs

The grammar says which lists of tokens are programs and which tree each of them stands for, without
saying how to find it:

    expression ::= 'if' expression 'then' expression 'else' expression
                 | 'let' definition+ 'in' expression
                 | 'map' variables 'to' expression
                 | term (operator term)*
    term       ::= operator term | constant | factor ('(' arguments ')')?
    factor     ::= '(' expression ')' | primitive | identifier
    arguments  ::= nothing | expression (',' expression)*
    variables  ::= nothing | identifier (',' identifier)*
    definition ::= identifier ':=' expression ';'

A derivation relates a nonterminal, a list of tokens and what the tokens stand for.  That is a tree
for most nonterminals, several trees for lists, and operators with their right operands for what
follows the first term of an expression.
-/

namespace JamLang.Grammar

/-- The kinds of phrases. -/
inductive Nonterminal where
  | expression
  /-- The operators and terms after the first term of an expression. -/
  | operations
  | term
  | factor
  | arguments
  /-- One argument or more. -/
  | argumentList
  | variables
  /-- One variable or more. -/
  | variableList
  /-- One definition or more. -/
  | definitions
  | definition
  deriving DecidableEq, Repr

/-- What a phrase stands for. -/
@[reducible] def Nonterminal.Meaning : Nonterminal → Type
  | .expression | .term | .factor | .definition => Node
  | .operations => List (Token × Node)
  | .arguments | .argumentList | .variables | .variableList | .definitions => List Node

/-- The integer that a token is written as.  A text that is no integer counts as zero, so that
being a program does not depend on the texts of integers. -/
def integerOf (token : Token) : Int :=
  match Text.readInteger token.text with
  | .ok value => value
  | .error _ => 0

/-- Operators are applied from the left to the right. -/
def applyOperations (first : Node) (operations : List (Token × Node)) : Node :=
  operations.foldl
    (fun left operation => .binary operation.1.text left operation.2 operation.1.loc) first

/-- The tokens are a phrase and stand for a meaning. -/
inductive Derives : (symbol : Nonterminal) → List Token → symbol.Meaning → Prop where
  | conditional {ifWord thenWord elseWord : Token} {first second third : List Token}
      {condition consequence otherwise : Node}
      (isIf : ifWord.kind = .ifWord) (derivesCondition : Derives .expression first condition)
      (isThen : thenWord.kind = .thenWord)
      (derivesConsequence : Derives .expression second consequence)
      (isElse : elseWord.kind = .elseWord)
      (derivesOtherwise : Derives .expression third otherwise) :
      Derives .expression (ifWord :: (first ++ thenWord :: (second ++ elseWord :: third)))
        (.conditional condition consequence otherwise ifWord.loc)
  | letIn {letWord inWord : Token} {first second : List Token} {defined : List Node} {body : Node}
      (isLet : letWord.kind = .letWord) (derivesDefinitions : Derives .definitions first defined)
      (isIn : inWord.kind = .inWord) (derivesBody : Derives .expression second body) :
      Derives .expression (letWord :: (first ++ inWord :: second)) (.letIn defined body letWord.loc)
  | mapTo {mapWord toWord : Token} {first second : List Token} {names : List Node} {body : Node}
      (isMap : mapWord.kind = .mapWord) (derivesVariables : Derives .variables first names)
      (isTo : toWord.kind = .toWord) (derivesBody : Derives .expression second body) :
      Derives .expression (mapWord :: (first ++ toWord :: second)) (.mapTo names body mapWord.loc)
  | operation {first second : List Token} {left : Node} {operations : List (Token × Node)}
      (derivesFirst : Derives .term first left)
      (derivesOperations : Derives .operations second operations) :
      Derives .expression (first ++ second) (applyOperations left operations)
  | noOperations : Derives .operations [] []
  | moreOperations {sign : Token} {first second : List Token} {right : Node}
      {operations : List (Token × Node)}
      (isOperator : sign.kind = .operator) (isBinary : sign.text ∈ Vocabulary.binaryOperators)
      (derivesRight : Derives .term first right)
      (derivesOperations : Derives .operations second operations) :
      Derives .operations (sign :: (first ++ second)) ((sign, right) :: operations)
  | unary {sign : Token} {tokens : List Token} {operand : Node}
      (isOperator : sign.kind = .operator) (isUnary : sign.text ∈ Vocabulary.unaryOperators)
      (derivesOperand : Derives .term tokens operand) :
      Derives .term (sign :: tokens) (.unary sign.text operand sign.loc)
  | integer {token : Token} (isInteger : token.kind = .integer) :
      Derives .term [token] (.constant (.int (integerOf token)) "int" token.loc)
  | boolean {token : Token} (isBoolean : token.kind = .boolean) :
      Derives .term [token] (.constant (.bool (token.text = "true")) "bool" token.loc)
  | null {token : Token} (isNull : token.kind = .null) :
      Derives .term [token] (.constant .null "null" token.loc)
  | uncalled {tokens : List Token} {tree : Node} (derivesFactor : Derives .factor tokens tree) :
      Derives .term tokens tree
  | call {opening closing : Token} {first second : List Token} {callee : Node}
      {arguments : List Node}
      (derivesCallee : Derives .factor first callee) (isOpening : opening.kind = .leftParen)
      (derivesArguments : Derives .arguments second arguments)
      (isClosing : closing.kind = .rightParen) :
      Derives .term (first ++ opening :: (second ++ [closing])) (.call callee arguments)
  | group {opening closing : Token} {tokens : List Token} {tree : Node}
      (isOpening : opening.kind = .leftParen) (derivesInner : Derives .expression tokens tree)
      (isClosing : closing.kind = .rightParen) :
      Derives .factor (opening :: (tokens ++ [closing])) tree
  | primitive {token : Token} (isPrimitive : token.kind = .primitive) :
      Derives .factor [token] (.primitive token.text token.loc)
  | identifier {token : Token} (isIdentifier : token.kind = .identifier) :
      Derives .factor [token] (.var token.text token.loc)
  | noArguments : Derives .arguments [] []
  | someArguments {tokens : List Token} {trees : List Node}
      (derivesList : Derives .argumentList tokens trees) : Derives .arguments tokens trees
  | lastArgument {tokens : List Token} {tree : Node}
      (derivesTree : Derives .expression tokens tree) : Derives .argumentList tokens [tree]
  | moreArguments {comma : Token} {first second : List Token} {tree : Node} {trees : List Node}
      (derivesFirst : Derives .expression first tree) (isComma : comma.kind = .comma)
      (derivesRest : Derives .argumentList second trees) :
      Derives .argumentList (first ++ comma :: second) (tree :: trees)
  | noVariables : Derives .variables [] []
  | someVariables {tokens : List Token} {trees : List Node}
      (derivesList : Derives .variableList tokens trees) : Derives .variables tokens trees
  | lastVariable {name : Token} (isIdentifier : name.kind = .identifier) :
      Derives .variableList [name] [.var name.text name.loc]
  | moreVariables {name comma : Token} {tokens : List Token} {trees : List Node}
      (isIdentifier : name.kind = .identifier) (isComma : comma.kind = .comma)
      (derivesRest : Derives .variableList tokens trees) :
      Derives .variableList (name :: comma :: tokens) (.var name.text name.loc :: trees)
  | lastDefinition {tokens : List Token} {tree : Node}
      (derivesTree : Derives .definition tokens tree) : Derives .definitions tokens [tree]
  | moreDefinitions {first second : List Token} {tree : Node} {trees : List Node}
      (derivesFirst : Derives .definition first tree)
      (derivesRest : Derives .definitions second trees) :
      Derives .definitions (first ++ second) (tree :: trees)
  | definition {name bind semicolon : Token} {tokens : List Token} {right : Node}
      (isIdentifier : name.kind = .identifier) (isBind : bind.kind = .bind)
      (derivesRight : Derives .expression tokens right)
      (isSemicolon : semicolon.kind = .semicolon) :
      Derives .definition (name :: bind :: (tokens ++ [semicolon]))
        (.definition name.text right name.loc)

/-- The tokens are a program. -/
def IsProgram (tokens : List Token) : Prop :=
  ∃ tree, Derives .expression tokens tree

/-- The tokens can go on to a program. -/
def StartsProgram (tokens : List Token) : Prop :=
  ∃ rest, IsProgram (tokens ++ rest)

end JamLang.Grammar
