import JamLang.Lexer

/-!
# Token streams

The parser reads tokens from a stream that can look one token ahead.  The tokens come from a
supply: a list of tokens, or a text that is lexed as far as it is asked for and no further.  A
supply that has come to its end or to a fault has nothing more to give.
-/

namespace JamLang

/-- Where tokens come from. -/
inductive Supply where
  | list (tokens : List Token)
  | text (reader : Reader)
  deriving DecidableEq, Repr

namespace Supply

/-- A supply with nothing to give. -/
def exhausted : Supply := .list []

/-- Asks for the next token; none at the end. -/
def pull : Supply → Except LexicalFault (Option Token) × Supply
  | .list [] => (.ok none, exhausted)
  | .list (token :: tokens) => (.ok (some token), .list tokens)
  | .text reader =>
    match Lexer.nextToken reader with
    | .token token after => (.ok (some token), .text after)
    | .finished _ => (.ok none, exhausted)
    | .fault fault _ => (.error fault, exhausted)

/-- A bound on the number of tokens that can still be asked for. -/
def size : Supply → Nat
  | .list tokens => tokens.length
  | .text reader => reader.rest.length

end Supply

/-- A supply of tokens and, if one was looked at, the token or the end that comes next. -/
structure Stream where
  supply : Supply
  lookahead : Option (Option Token) := none
  deriving DecidableEq, Repr

namespace Stream

/-- The stream of a list of tokens. -/
def ofTokens (tokens : List Token) : Stream :=
  { supply := .list tokens }

/-- The stream of a source, lexed on demand. -/
def ofString (source : String) : Stream :=
  { supply := .text (.ofString source) }

/-- Shows the next token, or none at the end, and leaves it to be read. -/
def peek (stream : Stream) : Except LexicalFault (Option Token) × Stream :=
  match stream.lookahead with
  | some shown => (.ok shown, stream)
  | none =>
    match stream.supply.pull with
    | (.ok shown, supply) => (.ok shown, { supply, lookahead := some shown })
    | (.error fault, supply) => (.error fault, { supply })

/-- Reads the next token, or none at the end. -/
def read (stream : Stream) : Except LexicalFault (Option Token) × Stream :=
  match stream.lookahead with
  | some shown => (.ok shown, { supply := stream.supply })
  | none =>
    match stream.supply.pull with
    | (result, supply) => (result, { supply })

/-- A bound on the number of tokens that can still be read. -/
def size (stream : Stream) : Nat :=
  stream.supply.size + (if stream.lookahead.isSome then 1 else 0)

end Stream

end JamLang
