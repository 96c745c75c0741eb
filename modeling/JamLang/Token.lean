import JamLang.Loc

/-!
# Tokens

The vocabulary of Jam and the tokens made of it.  A token has a kind, the text it was written as
and a location.  The parser looks at kinds, and at the text of operators, and at nothing else.

Kinds and their names determine each other (`TokenKind.ofName_name`, `TokenKind.name_ofName`): a
kind outside the vocabulary carries its name and the proof that no kind of the vocabulary has it.
-/

namespace JamLang

/-- The names of the kinds of the vocabulary. -/
def TokenKind.listedNames : List String :=
  ["IF", "THEN", "ELSE", "LET", "IN", "MAP", "TO", "LPAREN", "RPAREN", "COMMA", "SEMICOLON",
   "BIND", "OP", "INT", "BOOL", "NULL", "IDENT", "PRIM"]

/-- What a token is. -/
inductive TokenKind where
  | ifWord
  | thenWord
  | elseWord
  | letWord
  | inWord
  | mapWord
  | toWord
  | leftParen
  | rightParen
  | comma
  | semicolon
  | bind
  | operator
  | integer
  | boolean
  | null
  | identifier
  | primitive
  /-- A kind that no text has; tokens made by hand may be of it. -/
  | foreign (name : String) (unlisted : name ∉ TokenKind.listedNames)
  deriving DecidableEq, Repr

namespace TokenKind

/-- The kinds of the vocabulary. -/
def listed : List TokenKind :=
  [.ifWord, .thenWord, .elseWord, .letWord, .inWord, .mapWord, .toWord, .leftParen, .rightParen,
   .comma, .semicolon, .bind, .operator, .integer, .boolean, .null, .identifier, .primitive]

/-- The kinds of the tokens that stand for a value. -/
def constants : List TokenKind :=
  [.integer, .boolean, .null]

/-- The name of a kind. -/
def name : TokenKind → String
  | .ifWord => "IF"
  | .thenWord => "THEN"
  | .elseWord => "ELSE"
  | .letWord => "LET"
  | .inWord => "IN"
  | .mapWord => "MAP"
  | .toWord => "TO"
  | .leftParen => "LPAREN"
  | .rightParen => "RPAREN"
  | .comma => "COMMA"
  | .semicolon => "SEMICOLON"
  | .bind => "BIND"
  | .operator => "OP"
  | .integer => "INT"
  | .boolean => "BOOL"
  | .null => "NULL"
  | .identifier => "IDENT"
  | .primitive => "PRIM"
  | .foreign name _ => name

/-- The kind of the vocabulary that has a listed name. -/
def ofListedName : String → TokenKind
  | "IF" => .ifWord
  | "THEN" => .thenWord
  | "ELSE" => .elseWord
  | "LET" => .letWord
  | "IN" => .inWord
  | "MAP" => .mapWord
  | "TO" => .toWord
  | "LPAREN" => .leftParen
  | "RPAREN" => .rightParen
  | "COMMA" => .comma
  | "SEMICOLON" => .semicolon
  | "BIND" => .bind
  | "OP" => .operator
  | "INT" => .integer
  | "BOOL" => .boolean
  | "NULL" => .null
  | "IDENT" => .identifier
  | _ => .primitive

/-- The kind that has a name. -/
def ofName (name : String) : TokenKind :=
  if isListed : name ∈ listedNames then ofListedName name else .foreign name isListed

theorem name_ofName (name : String) : (ofName name).name = name := by
  unfold ofName
  split
  · next isListed =>
    simp only [listedNames, List.mem_cons, List.not_mem_nil, or_false] at isListed
    rcases isListed with rfl | rfl | rfl | rfl | rfl | rfl | rfl | rfl | rfl | rfl | rfl | rfl |
      rfl | rfl | rfl | rfl | rfl | rfl <;> rfl
  · rfl

theorem ofName_name (kind : TokenKind) : ofName kind.name = kind := by
  cases kind with
  | foreign name unlisted => simp [ofName, TokenKind.name, unlisted]
  | _ => simp [ofName, TokenKind.name, listedNames, ofListedName]

/-- Different kinds have different names. -/
theorem name_inj {a b : TokenKind} : a.name = b.name ↔ a = b :=
  ⟨fun same => by rw [← ofName_name a, same, ofName_name], congrArg name⟩

end TokenKind

/-! ## The vocabulary -/

namespace Vocabulary

/-- The reserved words that shape expressions. -/
def keywords : List (String × TokenKind) :=
  [("if", .ifWord), ("then", .thenWord), ("else", .elseWord), ("let", .letWord), ("in", .inWord),
   ("map", .mapWord), ("to", .toWord)]

/-- The reserved words that stand for a value. -/
def literals : List (String × TokenKind) :=
  [("true", .boolean), ("false", .boolean), ("null", .null)]

/-- The names of the built-in functions. -/
def primitives : List String :=
  ["number?", "function?", "list?", "null?", "cons?", "arity", "cons", "first", "rest"]

/-- The operators that may stand before their operand. -/
def unaryOperators : List String :=
  ["+", "-", "~"]

/-- The operators that may stand between two operands. -/
def binaryOperators : List String :=
  ["+", "-", "*", "/", "=", "!=", "<", ">", "<=", ">=", "&", "|"]

/-- The symbols that are no operators. -/
def punctuation : List (String × TokenKind) :=
  [("(", .leftParen), (")", .rightParen), (",", .comma), (";", .semicolon), (":=", .bind)]

/-- All symbols, with their kinds. -/
def symbols : List (String × TokenKind) :=
  punctuation ++ ("~" :: binaryOperators).map (·, .operator)

/-- The kind of a word: keyword, literal, built-in function or identifier. -/
def wordKind (word : String) : TokenKind :=
  match keywords.lookup word with
  | some kind => kind
  | none =>
    match literals.lookup word with
    | some kind => kind
    | none => if word ∈ primitives then .primitive else .identifier

/-- The kind of a symbol, if the text is one. -/
def symbolKind? (text : String) : Option TokenKind :=
  symbols.lookup text

end Vocabulary

/-! ## Tokens -/

/-- A piece of a program: its kind, its text and where it starts. -/
structure Token where
  kind : TokenKind
  text : String
  loc : Loc := .unknown
  deriving DecidableEq, Repr

namespace Token

/-- The token with its kind and its text. -/
def outline (token : Token) : String :=
  "Token(" ++ token.kind.name ++ ", " ++ token.text ++ ")"

/-- The token stands for a value. -/
def isConstant (token : Token) : Bool :=
  token.kind ∈ TokenKind.constants

/-- The token is an operator that may stand before its operand. -/
def isUnaryOperator (token : Token) : Bool :=
  token.kind = .operator && token.text ∈ Vocabulary.unaryOperators

/-- The token is an operator that may stand between two operands. -/
def isBinaryOperator (token : Token) : Bool :=
  token.kind = .operator && token.text ∈ Vocabulary.binaryOperators

end Token

end JamLang
