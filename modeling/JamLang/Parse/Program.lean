import JamLang.Parse.Basic
import JamLang.Parse.Descent

/-!
# Programs

The entry points of the parser.  A program is an expression that ends where its tokens end.  Each
routine of the grammar can also be run on its own; one that needs a lead first reads it.
-/

namespace JamLang

namespace Parse

/-- A bound on the depth of calls that suffices for what is left of a stream. -/
def depthBound (stream : Stream) : Nat :=
  4 * stream.size + 8

/-- Runs a routine with a bound that suffices. -/
def bounded {α : Type} (routine : Nat → Dialogue α) : Parse α :=
  ExceptT.mk fun stream => (ofDialogue (routine (depthBound stream))).run stream

theorem run_bounded {α : Type} (routine : Nat → Dialogue α) (stream : Stream) :
    (bounded routine).run stream = (ofDialogue (routine (depthBound stream))).run stream := rfl

/-- Reads a lead and runs a routine on it. -/
def withLead {α : Type} (routine : Nat → Option Token → Dialogue α) : Parse α := do
  let lead ← read
  bounded fun bound => routine bound lead

/-- A whole program. -/
def program : Parse Node :=
  bounded Dialogue.program

end Parse

/-! ## Routines on their own -/

/-- The routines of the grammar. -/
inductive Routine where
  | program
  | expression
  | term
  | factor
  | conditional
  | letIn
  | mapTo
  | definition
  | expressions (separator delimiter : TokenKind)
  | arguments
  | mapVariables
  | definitions
  deriving DecidableEq, Repr

/-- What a routine yields: a tree, or several. -/
inductive Yield where
  | tree (tree : Node)
  | trees (trees : List Node)
  deriving DecidableEq

/-- Runs a routine, after reading its lead if it needs one. -/
def Routine.run : Routine → Parse Yield
  | .program => .tree <$> Parse.program
  | .expression => .tree <$> Parse.bounded Dialogue.expression
  | .term => .tree <$> Parse.withLead Dialogue.term
  | .factor => .tree <$> Parse.withLead Dialogue.factor
  | .conditional => .tree <$> Parse.withLead Dialogue.conditional
  | .letIn => .tree <$> Parse.withLead Dialogue.letIn
  | .mapTo => .tree <$> Parse.withLead Dialogue.mapTo
  | .definition => .tree <$> Parse.withLead Dialogue.definition
  | .expressions separator delimiter =>
    .trees <$> Parse.bounded fun bound => Dialogue.expressions bound separator delimiter
  | .arguments => .trees <$> Parse.bounded Dialogue.arguments
  | .mapVariables => .trees <$> Parse.bounded Dialogue.mapVariables
  | .definitions => .trees <$> Parse.bounded Dialogue.definitions

/-! ## Whole programs -/

/-- The tree of the program that a stream holds. -/
def parseStream (stream : Stream) : Except Fault Node :=
  (Parse.program.run stream).1

/-- The tree of a source, which is lexed as it is parsed. -/
def parse (source : String) : Except Fault Node :=
  parseStream (.ofString source)

/-- The tree of a list of tokens. -/
def parseTokens (tokens : List Token) : Except Fault Node :=
  parseStream (.ofTokens tokens)

end JamLang
