import JamLang.Token
import JamLang.Text.Numeral

/-!
# Faults

What can go wrong between a text and its tree.  A fault is a cause; how it reads is said by one
function.  Faults of the text and of the grammar are reported as a `Diagnostic`, which names the
token that was found, what the grammar asked for, and where.
-/

namespace JamLang

/-- What the grammar asks for at a point of a program. -/
inductive Expectation where
  | thenWord
  | elseWord
  | closingParen
  | bind
  | semicolon
  | variable
  /-- What goes on or ends a list of arguments. -/
  | commaOrParen
  /-- What goes on or ends a list of variables. -/
  | toOrComma
  /-- What may start a term that is no unary operation. -/
  | operand
  | unaryOperator
  | binaryOperator
  /-- Any other wish, in words. -/
  | worded (text : String)
  deriving DecidableEq, Repr

/-- The expectation in words. -/
def Expectation.text : Expectation → String
  | .thenWord => "'then'"
  | .elseWord => "'else'"
  | .closingParen => "')'"
  | .bind => "`:='"
  | .semicolon => "`;'"
  | .variable => "variable"
  | .commaOrParen => "`,' or `)'"
  | .toOrComma => "'to' or ','"
  | .operand => "constant, primitive, variable, or `('"
  | .unaryOperator => "unary operator"
  | .binaryOperator => "binary operator"
  | .worded text => text

/-- A report on a program that is not well formed. -/
structure Diagnostic where
  message : String
  /-- The offending token; none at the end of the input and for faults of the text. -/
  found : Option Token
  /-- What the grammar required. -/
  expected : Option String
  loc : Loc
  deriving DecidableEq, Repr

namespace Diagnostic

/-- A report; a token that was found decides about the location. -/
def report (message : String) (found : Option Token) (expected : Option String) (loc : Loc) :
    Diagnostic :=
  ⟨message, found, expected, (found.map Token.loc).getD loc⟩

/-- The report that one thing was found where another was expected. -/
def unexpected (found : Option Token) (expected : String) : Diagnostic :=
  report
    ("Token `" ++ (found.map Token.text).getD "EOF" ++ "' appears where " ++ expected ++
      " was expected")
    found (some expected) .unknown

end Diagnostic

/-- Why a text has no further token. -/
inductive LexicalFault where
  /-- No token starts with the character that stands here. -/
  | illegalCharacter (c : Char) (loc : Loc)
  /-- The block comment that opens here is not closed. -/
  | unterminatedComment (loc : Loc)
  deriving DecidableEq, Repr

/-- The report of a lexical fault. -/
def LexicalFault.diagnostic : LexicalFault → Diagnostic
  | .illegalCharacter c loc =>
    .report ("`" ++ String.singleton c ++ "' is not a legal token") none none loc
  | .unterminatedComment loc =>
    .report
      ("Unterminated comment at line " ++ Text.numeral loc.line ++ ", col " ++
        Text.numeral loc.column)
      none none loc

/-- Why tokens are no program. -/
inductive SyntaxFault where
  /-- The grammar asks for something else than the token found, or than the end of the input. -/
  | unexpected (found : Option Token) (expected : Expectation)
  /-- A token follows a whole program. -/
  | trailing (found : Token)
  deriving DecidableEq, Repr

/-- The report of a fault of the grammar. -/
def SyntaxFault.diagnostic : SyntaxFault → Diagnostic
  | .unexpected found expected => .unexpected found expected.text
  | .trailing found =>
    .report ("Unexpected data after expression: `" ++ found.text ++ "'") (some found)
      (some "end of input") .unknown

/-- Why there is no tree. -/
inductive Fault where
  | lexical (fault : LexicalFault)
  | grammar (fault : SyntaxFault)
  /-- The text of an integer token is no integer that may be read. -/
  | numeral (fault : Text.NumeralFault)
  /-- A token that is no constant was asked for its value. -/
  | notConstant (token : Token)
  /-- A token that is neither a constant nor a name was to become a leaf. -/
  | noLeaf (kind : TokenKind)
  /-- The end of the input was to become a leaf, or an operator before an operand. -/
  | noToken
  /-- The operator between two terms had been seen, and is not there to be read. -/
  | failedAssertion
  /-- The bound on the depth of the descent was too small. -/
  | tooDeep
  deriving DecidableEq, Repr

namespace Fault

/-- The report of a fault of the program, as opposed to one of its numbers or of its use. -/
def diagnostic? : Fault → Option Diagnostic
  | .lexical fault => some fault.diagnostic
  | .grammar fault => some fault.diagnostic
  | _ => none

/-- The text of a fault. -/
def message : Fault → String
  | .lexical fault => fault.diagnostic.message
  | .grammar fault => fault.diagnostic.message
  | .numeral fault => fault.message
  | .notConstant token => token.outline ++ " is not a constant token"
  | .noLeaf kind => Text.quoteString kind.name
  | .noToken => "'NoneType' object has no attribute 'type'"
  | .failedAssertion => ""
  | .tooDeep => "the program is nested too deeply"

end Fault

end JamLang
