import JamLang.Leaf

/-!
# Dialogues

A parsing routine learns about its tokens in two ways only: it reads the next token, or it looks at
the kind of the next one and leaves it.  In between it decides how to go on, and at last it has an
answer, which is a result or a fault.  Nothing else is known about where the tokens come from, so a
routine can be held against any supply of them, and reasoned about without one.
-/

namespace JamLang

/-- A routine that asks for tokens until it has an answer. -/
inductive Dialogue (α : Type) where
  | answer (result : Except Fault α)
  /-- Reads the next token; the reply is none at the end. -/
  | reading (reply : Option Token → Dialogue α)
  /-- Looks at the kind of the next token; the reply is none at the end. -/
  | looking (reply : Option TokenKind → Dialogue α)

namespace Dialogue

/-! ## One routine after another -/

/-- Goes on with the result of a routine; a fault ends it. -/
def bind {α β : Type} : Dialogue α → (α → Dialogue β) → Dialogue β
  | answer (.ok value), next => next value
  | answer (.error fault), _ => answer (.error fault)
  | reading reply, next => reading fun token => (reply token).bind next
  | looking reply, next => looking fun kind => (reply kind).bind next

instance : Monad Dialogue where
  pure value := answer (.ok value)
  bind := bind

/-! ## Steps -/

/-- The next token, which is read; none at the end. -/
def read : Dialogue (Option Token) :=
  reading pure

/-- The kind of the next token, which is left to be read; none at the end. -/
def peekKind : Dialogue (Option TokenKind) :=
  looking pure

/-! ## Tests of a token -/

/-- The kind of a token that was read; none at the end. -/
def kindOf (token : Option Token) : Option TokenKind :=
  token.map Token.kind

/-- The location of a token that was read. -/
def locOf (token : Option Token) : Loc :=
  (token.map Token.loc).getD .unknown

/-- Fails because something else was expected. -/
def unexpected {α : Type} (found : Option Token) (expected : Expectation) : Dialogue α :=
  answer (.error (.grammar (.unexpected found expected)))

/-- Reads the next token, which has to be of the given kind. -/
def expect (kind : TokenKind) (expected : Expectation) : Dialogue Token := do
  let next ← read
  match next with
  | some token => if token.kind = kind then pure token else unexpected next expected
  | none => unexpected next expected

/-- The leaf of a token that was read. -/
def leaf : Option Token → Dialogue Node
  | some token => answer (Node.leaf token)
  | none => answer (.error .noToken)

/-- The operator before an operand that a token stands for. -/
def unaryOperator : Option Token → Dialogue String
  | some token => answer token.unaryOperator
  | none => answer (.error .noToken)

/-- The operator between operands that a token stands for.  Its kind was seen before it is read, so
it is asserted that there is one. -/
def binaryOperator : Option Token → Dialogue String
  | some token => answer token.binaryOperator
  | none => answer (.error .failedAssertion)

/-- The answer of a routine whose bound on the depth of calls is used up. -/
def tooDeep {α : Type} : Dialogue α :=
  answer (.error .tooDeep)

end Dialogue

end JamLang
