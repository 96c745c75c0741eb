import JamLang.Parse.Dialogue

/-!
# Descent through the grammar

A program is one expression:

    expression ::= 'if' expression 'then' expression 'else' expression
                 | 'let' definition+ 'in' expression
                 | 'map' variables 'to' expression
                 | term (operator term)*
    term       ::= operator term | constant | factor ('(' arguments ')')?
    factor     ::= '(' expression ')' | primitive | identifier
    arguments  ::= nothing | expression (',' expression)*
    variables  ::= nothing | identifier (',' identifier)*
    definition ::= identifier ':=' expression ';'

All operators between terms bind alike and group to the left.  There is one routine for each
construct.  A routine whose construct starts at a token that has already been read takes that
token, its lead, as an argument; at the end of the input there is none.

Every routine calls others with a smaller bound on the depth of calls.  Each cycle of calls reads
a token, so a bound that grows with the number of tokens is never used up.
-/

namespace JamLang.Dialogue

/-! ## Variables -/

/-- One variable or more, the first of which is the lead, with the word `to`. -/
def moreVariables : Nat → Option Token → Dialogue (List Node)
  | 0, _ => tooDeep
  | bound + 1, lead =>
    if kindOf lead = some .identifier then do
      let first ← leaf lead
      let next ← read
      if kindOf next = some .toWord then
        pure [first]
      else if kindOf next = some .comma then
        let lead ← read
        let rest ← moreVariables bound lead
        pure (first :: rest)
      else
        unexpected next .toOrComma
    else
      unexpected lead .variable

/-- The variables of a function, with the word `to`. -/
def mapVariables (bound : Nat) : Dialogue (List Node) := do
  let lead ← read
  if kindOf lead = some .toWord then
    pure []
  else
    moreVariables bound lead

/-! ## Expressions -/

mutual
/-- An expression. -/
def expression : Nat → Dialogue Node
  | 0 => tooDeep
  | bound + 1 => do
    let lead ← read
    match kindOf lead with
    | some .ifWord => conditional bound lead
    | some .letWord => letIn bound lead
    | some .mapWord => mapTo bound lead
    | _ =>
      let first ← term bound lead
      operations bound first

/-- The operators and terms that follow a term, grouped to the left. -/
def operations : Nat → Node → Dialogue Node
  | 0, _ => tooDeep
  | bound + 1, left => do
    let next ← peekKind
    if next = some .operator then
      let sign ← read
      let operator ← binaryOperator sign
      let lead ← read
      let right ← term bound lead
      operations bound (.binary operator left right (locOf sign))
    else
      pure left

/-- A term. -/
def term : Nat → Option Token → Dialogue Node
  | 0, _ => tooDeep
  | bound + 1, lead =>
    match kindOf lead with
    | some .operator => do
      let operator ← unaryOperator lead
      let next ← read
      let operand ← term bound next
      pure (.unary operator operand (locOf lead))
    | some .integer => leaf lead
    | some .boolean => leaf lead
    | some .null => leaf lead
    | _ => application bound lead

/-- A factor, with the arguments it may be called with. -/
def application : Nat → Option Token → Dialogue Node
  | 0, _ => tooDeep
  | bound + 1, lead => do
    let callee ← factor bound lead
    let next ← peekKind
    if next = some .leftParen then
      let _ ← read
      let arguments ← expressions bound .comma .rightParen
      pure (.call callee arguments)
    else
      pure callee

/-- A name, or an expression in parentheses. -/
def factor : Nat → Option Token → Dialogue Node
  | 0, _ => tooDeep
  | bound + 1, lead =>
    match kindOf lead with
    | some .leftParen => do
      let inner ← expression bound
      let _ ← expect .rightParen .closingParen
      pure inner
    | some .primitive => leaf lead
    | some .identifier => leaf lead
    | _ => unexpected lead .operand

/-- What follows the word `if`. -/
def conditional : Nat → Option Token → Dialogue Node
  | 0, _ => tooDeep
  | bound + 1, lead => do
    let condition ← expression bound
    let _ ← expect .thenWord .thenWord
    let consequence ← expression bound
    let _ ← expect .elseWord .elseWord
    let otherwise ← expression bound
    pure (.conditional condition consequence otherwise (locOf lead))

/-- What follows the word `let`. -/
def letIn : Nat → Option Token → Dialogue Node
  | 0, _ => tooDeep
  | bound + 1, lead => do
    let first ← read
    let definitions ← moreDefinitions bound first
    let body ← expression bound
    pure (.letIn definitions body (locOf lead))

/-- What follows the word `map`. -/
def mapTo : Nat → Option Token → Dialogue Node
  | 0, _ => tooDeep
  | bound + 1, lead => do
    let names ← mapVariables bound
    let body ← expression bound
    pure (.mapTo names body (locOf lead))

/-- Expressions between separators up to a delimiter, which is read. -/
def expressions : Nat → TokenKind → TokenKind → Dialogue (List Node)
  | 0, _, _ => tooDeep
  | bound + 1, separator, delimiter => do
    let next ← peekKind
    if next = some delimiter then
      let _ ← read
      pure []
    else
      moreExpressions bound separator delimiter

/-- One expression or more between separators up to a delimiter, which is read. -/
def moreExpressions : Nat → TokenKind → TokenKind → Dialogue (List Node)
  | 0, _, _ => tooDeep
  | bound + 1, separator, delimiter => do
    let first ← expression bound
    let next ← read
    if kindOf next = some separator then
      let rest ← moreExpressions bound separator delimiter
      pure (first :: rest)
    else if kindOf next = some delimiter then
      pure [first]
    else
      unexpected next .commaOrParen

/-- One definition or more, the first of which starts with the lead, with the word `in`. -/
def moreDefinitions : Nat → Option Token → Dialogue (List Node)
  | 0, _ => tooDeep
  | bound + 1, lead => do
    let first ← definition bound lead
    let next ← read
    if kindOf next = some .inWord then
      pure [first]
    else
      let rest ← moreDefinitions bound next
      pure (first :: rest)

/-- A definition. -/
def definition : Nat → Option Token → Dialogue Node
  | 0, _ => tooDeep
  | bound + 1, lead =>
    match lead with
    | some ⟨.identifier, name, loc⟩ => do
      let _ ← expect .bind .bind
      let right ← expression bound
      let _ ← expect .semicolon .semicolon
      pure (.definition name right loc)
    | _ => unexpected lead .variable
end

/-- The arguments of a call, with the closing parenthesis. -/
def arguments (bound : Nat) : Dialogue (List Node) :=
  expressions bound .comma .rightParen

/-- The definitions of a `let`, with the word `in`. -/
def definitions (bound : Nat) : Dialogue (List Node) := do
  let lead ← read
  moreDefinitions bound lead

/-! ## Programs -/

/-- A whole program, which ends where its tokens end. -/
def program (bound : Nat) : Dialogue Node := do
  let tree ← expression bound
  let next ← read
  match next with
  | some token => answer (.error (.grammar (.trailing token)))
  | none => pure tree

end JamLang.Dialogue
