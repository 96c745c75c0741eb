import JamLang.Parse.Dialogue
import JamLang.Stream

/-!
# Computations on a stream

A computation reads tokens from a stream and yields a tree or a fault.  After a fault the stream
stands where the fault arose, so that it can be seen how much was read.  The routines of the
grammar are dialogues; `ofDialogue` holds one with a stream.
-/

namespace JamLang

/-- A computation that reads tokens from a stream. -/
abbrev Parse (α : Type) := ExceptT Fault (StateM Stream) α

namespace Parse

/-! ## Steps -/

/-- A result that needs no token. -/
def ofExcept {α : Type} (result : Except Fault α) : Parse α :=
  ExceptT.mk fun stream => (result, stream)

/-- The next token, which is read; none at the end. -/
def read : Parse (Option Token) :=
  ExceptT.mk fun stream =>
    match stream.read with
    | (.ok token, after) => (.ok token, after)
    | (.error fault, after) => (.error (.lexical fault), after)

/-- The next token, which is left to be read; none at the end. -/
def peek : Parse (Option Token) :=
  ExceptT.mk fun stream =>
    match stream.peek with
    | (.ok token, after) => (.ok token, after)
    | (.error fault, after) => (.error (.lexical fault), after)

/-- The kind of the next token, which is left to be read. -/
def peekKind : Parse (Option TokenKind) :=
  Option.map Token.kind <$> peek

/-- The dialogue of a routine with a stream; a fault of the text ends it. -/
def ofDialogue {α : Type} : Dialogue α → Parse α
  | .answer result => ofExcept result
  | .reading reply => do
    let token ← read
    ofDialogue (reply token)
  | .looking reply => do
    let kind ← peekKind
    ofDialogue (reply kind)

/-- Reads the next token, which has to be of the given kind. -/
def expect (kind : TokenKind) (expected : Expectation) : Parse Token :=
  ofDialogue (.expect kind expected)

/-- The leaf of a token that was read. -/
def leaf (token : Option Token) : Parse Node :=
  ofDialogue (.leaf token)

/-! ## Running

What a step does to a stream, so that no proof about routines has to look into the monad. -/

@[simp] theorem run_pure {α : Type} (value : α) (stream : Stream) :
    (pure value : Parse α).run stream = (.ok value, stream) := rfl

@[simp] theorem run_ofExcept {α : Type} (result : Except Fault α) (stream : Stream) :
    (ofExcept result).run stream = (result, stream) := rfl

/-- A step after a routine is taken only if the routine succeeds. -/
theorem run_bind {α β : Type} (routine : Parse α) (next : α → Parse β) (stream : Stream) :
    (routine >>= next).run stream =
      match routine.run stream with
      | (.ok value, after) => (next value).run after
      | (.error fault, after) => (.error fault, after) := by
  change ExceptT.bindCont next (routine.run stream).1 (routine.run stream).2 = _
  split
  · next found => rw [found]; rfl
  · next found => rw [found]; rfl

/-- What a routine yields may be wrapped; that reads nothing. -/
theorem run_map {α β : Type} (wrap : α → β) (routine : Parse α) (stream : Stream) :
    (wrap <$> routine).run stream =
      ((routine.run stream).1.map wrap, (routine.run stream).2) := by
  rw [map_eq_pure_bind, run_bind]
  rcases routine.run stream with ⟨result, after⟩
  cases result <;> rfl

end Parse

end JamLang
