import JamLang.Parse.Program
import JamLang.Proofs.Dialogue.View

/-!
# Dialogues with a stream

A stream pulls its tokens out of a supply one at a time, and a text is only lexed when a token is
asked for.  Still a dialogue with the stream ends as the dialogue with the list of all tokens of
the supply does, whatever the supply is.  The one exception is a fault of the text after these
tokens: a dialogue that would come to the end of the list comes to that fault instead.

The proof keeps a stream and a view in step (`Stream.Stands`).  A view that has come to the end of
the list stands for no stream with a fault before it, so the two cases exclude each other.
-/

namespace JamLang

open Dialogue (View)

/-! ## What a stream has to give -/

/-- The tokens that a supply has to give, and the fault after them, if there is one. -/
def Supply.contents : Supply → List Token × Option LexicalFault
  | .list tokens => (tokens, none)
  | .text reader => Lexer.tokensFrom reader

namespace Supply

variable {supply : Supply} {tokens : List Token} {fault : Option LexicalFault}

/-- A supply gives its first token, or comes to its end, or to its fault. -/
theorem pull_of_contents (contents : supply.contents = (tokens, fault)) :
    (∃ token rest after, tokens = token :: rest ∧ supply.pull = (.ok (some token), after) ∧
        after.contents = (rest, fault)) ∨
      (tokens = [] ∧ fault = none ∧ supply.pull = (.ok none, exhausted)) ∨
      ∃ cause, tokens = [] ∧ fault = some cause ∧ supply.pull = (.error cause, exhausted) := by
  cases supply with
  | list all =>
    obtain ⟨rfl, rfl⟩ := Prod.mk.inj contents
    cases all with
    | nil => exact .inr (.inl ⟨rfl, rfl, rfl⟩)
    | cons token rest => exact .inl ⟨token, rest, .list rest, rfl, rfl, rfl⟩
  | text reader =>
    simp only [Supply.contents] at contents
    cases read : Lexer.nextToken reader with
    | token first after =>
      rw [Lexer.tokensFrom_of_token read] at contents
      obtain ⟨rfl, rfl⟩ := Prod.mk.inj contents
      exact .inl ⟨first, _, .text after, rfl, by simp only [pull, read], rfl⟩
    | finished after =>
      rw [Lexer.tokensFrom_of_finished read] at contents
      obtain ⟨rfl, rfl⟩ := Prod.mk.inj contents
      exact .inr (.inl ⟨rfl, rfl, by simp only [pull, read]⟩)
    | fault cause after =>
      rw [Lexer.tokensFrom_of_fault read] at contents
      obtain ⟨rfl, rfl⟩ := Prod.mk.inj contents
      exact .inr (.inr ⟨cause, rfl, rfl, by simp only [pull, read]⟩)

theorem length_contents_le (supply : Supply) : supply.contents.1.length ≤ supply.size := by
  cases supply with
  | list all => exact Nat.le_refl _
  | text reader => exact Lexer.length_tokensFrom_le reader

end Supply

/-- The supply is what is left of a list. -/
def Supply.IsList (supply : Supply) : Prop :=
  ∃ tokens, supply = .list tokens

theorem Supply.IsList.pull {supply : Supply} (isList : supply.IsList) : supply.pull.2.IsList := by
  obtain ⟨tokens, rfl⟩ := isList
  cases tokens with
  | nil => exact ⟨[], rfl⟩
  | cons token tokens => exact ⟨tokens, rfl⟩

/-! ## Streams and views in step -/

namespace Stream

/-- The stream has the tokens of the view to give, and after them the fault, if there is one.  A
stream has looked ahead if and only if the view says so, or has come to the end. -/
inductive Stands (fault : Option LexicalFault) : Stream → View → Prop where
  | fresh {supply : Supply} {tokens : List Token} (contents : supply.contents = (tokens, fault)) :
      Stands fault ⟨supply, none⟩ ⟨tokens, false⟩
  | seen {supply : Supply} {token : Token} {tokens : List Token}
      (contents : supply.contents = (tokens, fault)) :
      Stands fault ⟨supply, some (some token)⟩ ⟨token :: tokens, true⟩
  | ended {lookahead : Option (Option Token)} (isEnd : ∀ token ∈ lookahead, token = none)
      (isSound : fault = none) : Stands fault ⟨.exhausted, lookahead⟩ ⟨[], true⟩

variable {fault : Option LexicalFault} {stream : Stream} {view : View}

/-- A fault that a view at the end has not come to is none. -/
theorem Stands.eq_none {tokens : List Token} (stands : Stands fault stream ⟨tokens, true⟩)
    (isEnd : tokens = []) : fault = none := by
  cases stands with
  | seen => exact absurd isEnd (List.cons_ne_nil _ _)
  | ended _ isSound => exact isSound

/-- A stream that the view has not looked into has nothing but its supply. -/
theorem Stands.isFresh {tokens : List Token} (stands : Stands fault stream ⟨tokens, false⟩) :
    stream.lookahead = none ∧ stream.supply.contents = (tokens, fault) := by
  cases stands with
  | fresh contents => exact ⟨rfl, contents⟩

/-- Reading keeps stream and view in step, or comes to the fault at the end and leaves nothing. -/
theorem Stands.read (stands : Stands fault stream view) :
    (∃ after, stream.read = (.ok view.rest.head?, after) ∧ Stands fault after view.afterRead) ∨
      ∃ cause after, fault = some cause ∧ view.rest = [] ∧ stream.read = (.error cause, after) ∧
        Stands none after ⟨[], true⟩ := by
  cases stands with
  | @fresh supply tokens contents =>
    rcases Supply.pull_of_contents contents with ⟨token, rest, after, rfl, pulled, left⟩ |
      ⟨rfl, rfl, pulled⟩ | ⟨cause, rfl, rfl, pulled⟩
    · exact .inl ⟨⟨after, none⟩, by simp [Stream.read, pulled], .fresh left⟩
    · exact .inl ⟨⟨.exhausted, none⟩, by simp [Stream.read, pulled], .ended (by simp) rfl⟩
    · exact .inr ⟨cause, ⟨.exhausted, none⟩, rfl, rfl, by simp [Stream.read, pulled],
        .ended (by simp) rfl⟩
  | seen contents => exact .inl ⟨_, rfl, .fresh contents⟩
  | @ended lookahead isEnd isSound =>
    -- A stream that has seen its end gives that end up, and finds it again in its supply.
    refine .inl ⟨⟨.exhausted, none⟩, ?_, .ended (by simp) isSound⟩
    cases lookahead with
    | none => rfl
    | some shown =>
      obtain rfl := isEnd shown rfl
      rfl

/-- Looking keeps stream and view in step, or comes to the fault at the end and leaves nothing. -/
theorem Stands.peek (stands : Stands fault stream view) :
    (∃ after, stream.peek = (.ok view.rest.head?, after) ∧ Stands fault after view.afterLook) ∨
      ∃ cause after, fault = some cause ∧ view.rest = [] ∧ stream.peek = (.error cause, after) ∧
        Stands none after ⟨[], true⟩ := by
  cases stands with
  | @fresh supply tokens contents =>
    rcases Supply.pull_of_contents contents with ⟨token, rest, after, rfl, pulled, left⟩ |
      ⟨rfl, rfl, pulled⟩ | ⟨cause, rfl, rfl, pulled⟩
    · exact .inl ⟨⟨after, some (some token)⟩, by simp [Stream.peek, pulled], .seen left⟩
    · exact .inl ⟨⟨.exhausted, some none⟩, by simp [Stream.peek, pulled], .ended (by simp) rfl⟩
    · exact .inr ⟨cause, ⟨.exhausted, none⟩, rfl, rfl, by simp [Stream.peek, pulled],
        .ended (by simp) rfl⟩
  | seen contents => exact .inl ⟨_, rfl, .seen contents⟩
  | @ended lookahead isEnd isSound =>
    refine .inl ⟨⟨.exhausted, some none⟩, ?_, .ended (by simp) isSound⟩
    cases lookahead with
    | none => rfl
    | some shown =>
      obtain rfl := isEnd shown rfl
      rfl

/-- The tokens that are still to be read: the one that was looked at, if there is one, and what the
supply has to give. -/
def unread (stream : Stream) : List Token :=
  stream.lookahead.join.toList ++ stream.supply.contents.1

theorem Stands.unread_eq (stands : Stands fault stream view) : stream.unread = view.rest := by
  cases stands with
  | fresh contents => simp [unread, contents]
  | seen contents => simp [unread, contents]
  | @ended lookahead isEnd _ =>
    cases lookahead with
    | none => rfl
    | some shown =>
      obtain rfl := isEnd shown rfl
      rfl

/-- A stream of a list in step with a view that has not looked ahead is the stream of what is
left. -/
theorem Stands.eq_ofTokens {tokens : List Token} (stands : Stands none stream ⟨tokens, false⟩)
    (isList : stream.supply.IsList) : stream = .ofTokens tokens := by
  obtain ⟨isFresh, contents⟩ := stands.isFresh
  obtain ⟨supply, lookahead⟩ := stream
  obtain ⟨all, rfl⟩ := isList
  obtain rfl : lookahead = none := isFresh
  obtain ⟨rfl, -⟩ := Prod.mk.inj contents
  rfl

theorem isList_read (isList : stream.supply.IsList) : stream.read.2.supply.IsList := by
  unfold Stream.read
  split
  · exact isList
  · exact isList.pull

theorem isList_peek (isList : stream.supply.IsList) : stream.peek.2.supply.IsList := by
  have pulled := isList.pull
  unfold Stream.peek
  split
  · exact isList
  · split
    next pulls =>
      rw [pulls] at pulled
      exact pulled
    next pulls =>
      rw [pulls] at pulled
      exact pulled

end Stream

/-! ## Dialogues -/

namespace Parse

open JamLang.Stream (Stands)

variable {α : Type} {fault : Option LexicalFault} {stream : Stream} {view : View}

theorem run_read (stream : Stream) :
    read.run stream =
      match stream.read with
      | (.ok token, after) => (.ok token, after)
      | (.error cause, after) => (.error (.lexical cause), after) := rfl

theorem run_peekKind (stream : Stream) :
    peekKind.run stream =
      match stream.peek with
      | (.ok token, after) => (.ok (token.map Token.kind), after)
      | (.error cause, after) => (.error (.lexical cause), after) := by
  have runsPeek : peek.run stream =
      match stream.peek with
      | (.ok token, after) => (.ok token, after)
      | (.error cause, after) => (.error (.lexical cause), after) := rfl
  rw [peekKind, run_map, runsPeek]
  rcases stream.peek with ⟨result, after⟩
  cases result <;> rfl

/-- Once the end has been seen, it stays seen. -/
theorem on_ended (routine : Dialogue α) : (routine.on ⟨[], true⟩).2 = ⟨[], true⟩ := by
  induction routine with
  | answer result => rfl
  | reading reply ih => exact ih none
  | looking reply ih => exact ih none

/-- A dialogue with a stream ends as the dialogue with its tokens does, unless a fault of the text
takes the place of the end. -/
theorem run_ofDialogue (routine : Dialogue α) (stands : Stands fault stream view) :
    (∃ after, (ofDialogue routine).run stream = ((routine.on view).1, after) ∧
        Stands fault after (routine.on view).2) ∨
      ∃ cause after, fault = some cause ∧ (routine.on view).2 = ⟨[], true⟩ ∧
        (ofDialogue routine).run stream = (.error (.lexical cause), after) := by
  induction routine generalizing stream view with
  | answer result => exact .inl ⟨stream, rfl, stands⟩
  | reading reply ih =>
    rw [ofDialogue, run_bind, run_read]
    rcases stands.read with ⟨after, reads, stands'⟩ | ⟨cause, after, isFault, isEnd, reads, -⟩
    · rw [reads]
      exact ih _ stands'
    · -- The dialogue would have learned of the end here, and all it asks later is for nought.
      obtain ⟨rest, looked⟩ := view
      obtain rfl : rest = [] := isEnd
      rw [reads]
      exact .inr ⟨cause, after, isFault, on_ended _, rfl⟩
  | looking reply ih =>
    rw [ofDialogue, run_bind, run_peekKind]
    rcases stands.peek with ⟨after, shows', stands'⟩ | ⟨cause, after, isFault, isEnd, shows', -⟩
    · rw [shows']
      exact ih _ stands'
    · obtain ⟨rest, looked⟩ := view
      obtain rfl : rest = [] := isEnd
      rw [shows']
      exact .inr ⟨cause, after, isFault, on_ended _, rfl⟩

/-- A dialogue with a list leaves what is left of the list. -/
theorem isList_run_ofDialogue (routine : Dialogue α) (isList : stream.supply.IsList) :
    ((ofDialogue routine).run stream).2.supply.IsList := by
  induction routine generalizing stream with
  | answer result => exact isList
  | reading reply ih =>
    have isList' := Stream.isList_read isList
    rw [ofDialogue, run_bind, run_read]
    generalize stream.read = ending at isList'
    obtain ⟨result, after⟩ := ending
    cases result with
    | ok token => exact ih token isList'
    | error cause => exact isList'
  | looking reply ih =>
    have isList' := Stream.isList_peek isList
    rw [ofDialogue, run_bind, run_peekKind]
    generalize stream.peek = ending at isList'
    obtain ⟨result, after⟩ := ending
    cases result with
    | ok token => exact ih _ isList'
    | error cause => exact isList'

theorem stands_ofTokens (tokens : List Token) :
    Stands none (.ofTokens tokens) ⟨tokens, false⟩ :=
  .fresh rfl

theorem stands_ofString (source : String) :
    Stands (Lexer.tokens source).2 (.ofString source) ⟨(Lexer.tokens source).1, false⟩ :=
  .fresh rfl

theorem depthBound_ofTokens (tokens : List Token) :
    depthBound (.ofTokens tokens) = 4 * tokens.length + 8 := rfl

/-- A dialogue with a list of tokens, after which no fault can come, leaves a list. -/
theorem run_ofDialogue_ofTokens (routine : Dialogue α) (tokens : List Token) :
    ∃ after, (ofDialogue routine).run (.ofTokens tokens) =
        ((routine.on ⟨tokens, false⟩).1, after) ∧
      Stands none after (routine.on ⟨tokens, false⟩).2 ∧ after.supply.IsList := by
  have isList : ((ofDialogue routine).run (.ofTokens tokens)).2.supply.IsList :=
    isList_run_ofDialogue routine ⟨tokens, rfl⟩
  rcases run_ofDialogue routine (stands_ofTokens tokens) with ⟨after, runs, stands⟩ |
    ⟨_, _, isFault, -⟩
  · rw [runs] at isList
    exact ⟨after, runs, stands, isList⟩
  · simp at isFault

end Parse

end JamLang
