import Mathlib.Data.List.Induction
import Mathlib.Logic.Function.Iterate
import JamLang.Proofs.Dialogue.Stream

/-!
# Streams under any use

Whoever has a stream may look at its next token and read it, as often and in whatever order.  The
stream then is a queue: a call is answered with the first token that no read has taken yet, whatever
was looked at before, and when all tokens are taken with the end, or with the fault of the text that
comes there.  The fault is reported once.  Behind it the stream is at its end.

Two invariants carry this over from one call to the next.  A stream offers what is left of its
tokens (`Along`); and its supply has been asked for the tokens that were taken and at most one more
(`Drawn`).
-/

namespace JamLang

open Dialogue (View)

/-- What is left of a supply that was asked for its next token. -/
def Supply.rest (supply : Supply) : Supply :=
  supply.pull.2

namespace Stream

/-! ## Calls -/

/-- What may be asked of a stream. -/
inductive Call where
  | peek
  | read
  deriving DecidableEq, Repr

/-- The answer to a call, and the stream after it. -/
def ask (stream : Stream) : Call → Except LexicalFault (Option Token) × Stream
  | .peek => stream.peek
  | .read => stream.read

/-- The stream after calls, made one after the other. -/
def afterCalls (stream : Stream) (calls : List Call) : Stream :=
  calls.foldl (fun stream call => (stream.ask call).2) stream

/-- The answer to a call that is made after other calls. -/
def answer (stream : Stream) (calls : List Call) (call : Call) :
    Except LexicalFault (Option Token) :=
  ((stream.afterCalls calls).ask call).1

/-- The number of tokens that a call takes: one, if it is a read and there is a token. -/
def takes (stream : Stream) : Call → Nat
  | .peek => 0
  | .read =>
    match stream.read.1 with
    | .ok (some _) => 1
    | _ => 0

/-- The number of tokens that calls take, which is how many of the reads return a token. -/
def taken : Stream → List Call → Nat
  | _, [] => 0
  | stream, call :: calls => stream.takes call + taken (stream.ask call).2 calls

/-- Among the calls is one that was made when as many tokens as these had been taken. -/
def ReachesEnd (stream : Stream) (tokens : List Token) (calls : List Call) : Prop :=
  ∃ earlier call, earlier ++ [call] <+: calls ∧ stream.taken earlier = tokens.length

/-- Under all calls the stream is a queue of the tokens, and of the fault behind them, if there is
one; and its supply is asked for no more than that takes. -/
structure Serves (stream : Stream) (tokens : List Token) (fault : Option LexicalFault) : Prop where
  /-- No token is taken twice. -/
  within (calls : List Call) : stream.taken calls ≤ tokens.length
  /-- Every call is answered with the first token that was not taken. -/
  inOrder (calls : List Call) (call : Call) (more : stream.taken calls < tokens.length) :
    stream.answer calls call = .ok (some tokens[stream.taken calls])
  /-- Without a fault every call at the end is answered with the end. -/
  atEnd (isSound : fault = none) (calls : List Call) (call : Call)
    (spent : stream.taken calls = tokens.length) : stream.answer calls call = .ok none
  /-- The first call at the fault is answered with it. -/
  atFault {cause : LexicalFault} (isFault : fault = some cause) (calls : List Call) (call : Call)
    (spent : stream.taken calls = tokens.length) (isFirst : ¬ stream.ReachesEnd tokens calls) :
    stream.answer calls call = .error cause
  /-- Every later call is answered with the end. -/
  behindFault {cause : LexicalFault} (isFault : fault = some cause) (calls : List Call)
    (call : Call) (reached : stream.ReachesEnd tokens calls) : stream.answer calls call = .ok none
  /-- While a call is made, the supply has given the tokens that were taken before, and at most one
  more. -/
  onDemand (calls : List Call) (call : Call) :
    ∃ pulls ≤ stream.taken calls + 1,
      (stream.afterCalls (calls ++ [call])).supply = Supply.rest^[pulls] stream.supply

/-! ## One more call -/

section Calls

variable {stream : Stream} {tokens : List Token} {fault : Option LexicalFault}
  {calls : List Call} {call : Call}

@[simp] theorem afterCalls_nil (stream : Stream) : stream.afterCalls [] = stream := rfl

@[simp] theorem afterCalls_concat (stream : Stream) (calls : List Call) (call : Call) :
    stream.afterCalls (calls ++ [call]) = ((stream.afterCalls calls).ask call).2 := by
  simp [afterCalls]

@[simp] theorem taken_nil (stream : Stream) : stream.taken [] = 0 := rfl

@[simp] theorem taken_concat (stream : Stream) (calls : List Call) (call : Call) :
    stream.taken (calls ++ [call]) =
      stream.taken calls + (stream.afterCalls calls).takes call := by
  induction calls generalizing stream with
  | nil => simp [taken]
  | cons first calls ih => simp [taken, afterCalls, ih, Nat.add_assoc]

theorem not_reachesEnd_nil : ¬ stream.ReachesEnd tokens [] := by
  rintro ⟨earlier, call, isPrefix, -⟩
  simp at isPrefix

theorem reachesEnd_concat :
    stream.ReachesEnd tokens (calls ++ [call]) ↔
      stream.ReachesEnd tokens calls ∨ stream.taken calls = tokens.length := by
  constructor
  · rintro ⟨earlier, last, isPrefix, spent⟩
    rcases List.prefix_concat_iff.1 isPrefix with same | isPrefix
    · obtain ⟨rfl, -⟩ := List.append_inj' same rfl
      exact .inr spent
    · exact .inl ⟨earlier, last, isPrefix, spent⟩
  · rintro (⟨earlier, last, isPrefix, spent⟩ | spent)
    · exact ⟨earlier, last, isPrefix.trans (List.prefix_append ..), spent⟩
    · exact ⟨calls, call, List.prefix_rfl, spent⟩

/-! ## What a stream offers -/

/-- The stream has these tokens to give, and after them the fault, if there is one. -/
def Offers (stream : Stream) (tokens : List Token) (fault : Option LexicalFault) : Prop :=
  ∃ looked, Stands fault stream ⟨tokens, looked⟩

/-- A token is shown by every call, and taken by a read. -/
theorem Offers.token {token : Token} {rest : List Token}
    (offers : Offers stream (token :: rest) fault) (call : Call) :
    (stream.ask call).1 = .ok (some token) ∧
      Offers (stream.ask call).2 ((token :: rest).drop (stream.takes call)) fault := by
  obtain ⟨looked, stands⟩ := offers
  cases call with
  | peek =>
    rcases stands.peek with ⟨after, shows', stands'⟩ | ⟨_, _, _, isEnd, -⟩
    · rw [ask, shows']
      exact ⟨rfl, true, stands'⟩
    · simp at isEnd
  | read =>
    rcases stands.read with ⟨after, reads, stands'⟩ | ⟨_, _, _, isEnd, -⟩
    · rw [ask, takes, reads]
      exact ⟨rfl, false, stands'⟩
    · simp at isEnd

/-- At the end every call is answered with the end, or with the fault, which is then given up. -/
theorem Offers.atEnd (offers : Offers stream [] fault) (call : Call) :
    (stream.ask call).1 = fault.elim (.ok none) .error ∧ Offers (stream.ask call).2 [] none ∧
      stream.takes call = 0 := by
  obtain ⟨looked, stands⟩ := offers
  cases call with
  | peek =>
    rcases stands.peek with ⟨after, shows', stands'⟩ | ⟨cause, after, rfl, -, shows', stands'⟩
    · -- A stream in step with a view that is at the end has no fault before it.
      obtain rfl : fault = none := stands'.eq_none rfl
      rw [ask, shows']
      exact ⟨rfl, ⟨true, stands'⟩, rfl⟩
    · rw [ask, shows']
      exact ⟨rfl, ⟨true, stands'⟩, rfl⟩
  | read =>
    rcases stands.read with ⟨after, reads, stands'⟩ | ⟨cause, after, rfl, -, reads, stands'⟩
    · obtain rfl : fault = none := stands'.eq_none rfl
      rw [ask, takes, reads]
      exact ⟨rfl, ⟨true, stands'⟩, rfl⟩
    · rw [ask, takes, reads]
      exact ⟨rfl, ⟨true, stands'⟩, rfl⟩

theorem takes_le_one (stream : Stream) (call : Call) : stream.takes call ≤ 1 := by
  cases call with
  | peek => exact Nat.zero_le 1
  | read =>
    rw [takes]
    split
    · exact Nat.le_refl 1
    · exact Nat.zero_le 1

/-- What a stream offers after calls: what they have not taken, unless one of them was made at the
end. -/
inductive Along (stream : Stream) (tokens : List Token) (fault : Option LexicalFault)
    (calls : List Call) : Prop where
  | before (notReached : ¬ stream.ReachesEnd tokens calls)
      (within : stream.taken calls ≤ tokens.length)
      (offers : Offers (stream.afterCalls calls) (tokens.drop (stream.taken calls)) fault)
  | behind (reached : stream.ReachesEnd tokens calls)
      (spent : stream.taken calls = tokens.length)
      (offers : Offers (stream.afterCalls calls) [] none)

/-- A call at the end puts all that follows behind it. -/
theorem along_of_spent {left : Option LexicalFault} (spent : stream.taken calls = tokens.length)
    (offers : Offers (stream.afterCalls calls) [] left) (call : Call) :
    Along stream tokens fault (calls ++ [call]) := by
  obtain ⟨-, offers', takesNone⟩ := offers.atEnd call
  refine .behind (reachesEnd_concat.2 (.inr spent)) ?_ ?_
  · rw [taken_concat, takesNone, spent, Nat.add_zero]
  · rwa [afterCalls_concat]

theorem Along.concat (along : Along stream tokens fault calls) (call : Call) :
    Along stream tokens fault (calls ++ [call]) := by
  cases along with
  | before notReached within offers =>
    -- The call finds a token, or it is the first one that finds none.
    rcases Nat.lt_or_eq_of_le within with more | spent
    · have takesOne := (stream.afterCalls calls).takes_le_one call
      rw [List.drop_eq_getElem_cons more] at offers
      obtain ⟨-, offers'⟩ := offers.token call
      rw [← List.drop_eq_getElem_cons more, List.drop_drop] at offers'
      refine .before (fun reached => ?_) ?_ ?_
      · rcases reachesEnd_concat.1 reached with reached | spent
        · exact notReached reached
        · exact Nat.ne_of_lt more spent
      · rw [taken_concat]
        omega
      · rwa [afterCalls_concat, taken_concat]
    · rw [spent, List.drop_length] at offers
      exact along_of_spent spent offers call
  | behind _ spent offers => exact along_of_spent spent offers call

/-- What a stream offers is kept in step by calls. -/
theorem Offers.along (offers : Offers stream tokens fault) (calls : List Call) :
    Along stream tokens fault calls := by
  induction calls using List.reverseRecOn with
  | nil => exact .before not_reachesEnd_nil (Nat.zero_le _) offers
  | append_singleton calls call ih => exact ih.concat call

/-! ## How much of the supply is asked for -/

/-- The supply was asked for the tokens that were taken, and for the one that is on show. -/
inductive Drawn (start : Supply) (count : Nat) : Stream → Prop where
  | fresh {pulls : Nat} (within : pulls ≤ count) :
      Drawn start count ⟨Supply.rest^[pulls] start, none⟩
  | seen {pulls : Nat} {token : Token} (within : pulls ≤ count + 1) :
      Drawn start count ⟨Supply.rest^[pulls] start, some (some token)⟩
  | ended {pulls : Nat} {lookahead : Option (Option Token)} (within : pulls ≤ count + 1)
      (isExhausted : Supply.rest^[pulls] start = .exhausted)
      (isEnd : ∀ token ∈ lookahead, token = none) : Drawn start count ⟨.exhausted, lookahead⟩

/-- A token that is pulled is put on show, or returned. -/
theorem ask_of_pull_token {supply left : Supply} {token : Token}
    (pulled : supply.pull = (.ok (some token), left)) (call : Call) :
    (call = .peek ∧ (ask ⟨supply, none⟩ call).2 = ⟨left, some (some token)⟩) ∨
      (ask ⟨supply, none⟩ call).2 = ⟨left, none⟩ ∧ takes ⟨supply, none⟩ call = 1 := by
  cases call with
  | peek => exact .inl ⟨rfl, by simp [ask, peek, pulled]⟩
  | read => exact .inr ⟨by simp [ask, read, pulled], by simp [takes, read, pulled]⟩

theorem ask_of_pull_end {supply : Supply} {answer : Except LexicalFault (Option Token)}
    (pulled : supply.pull = (answer, .exhausted)) (noToken : ∀ token, answer ≠ .ok (some token))
    (call : Call) : ∃ lookahead, (ask ⟨supply, none⟩ call).2 = ⟨.exhausted, lookahead⟩ ∧
      ∀ token ∈ lookahead, token = none := by
  cases call with
  | read => exact ⟨none, by simp [ask, read, pulled], by simp⟩
  | peek =>
    cases answer with
    | error cause => exact ⟨none, by simp [ask, peek, pulled], by simp⟩
    | ok shown =>
      cases shown with
      | some token => exact absurd rfl (noToken token)
      | none => exact ⟨some none, by simp [ask, peek, pulled], by simp⟩

/-- A pull that finds no token is the last one that makes a difference. -/
theorem drawn_of_pull_end {start supply : Supply} {count pulls : Nat}
    {answer : Except LexicalFault (Option Token)} (within : pulls ≤ count + 1)
    (isExhausted : Supply.rest^[pulls] start = .exhausted)
    (pulled : supply.pull = (answer, .exhausted)) (noToken : ∀ token, answer ≠ .ok (some token))
    (call : Call) :
    Drawn start (count + takes ⟨supply, none⟩ call) (ask ⟨supply, none⟩ call).2 ∧
      ∃ pulls ≤ count + 1, (ask ⟨supply, none⟩ call).2.supply = Supply.rest^[pulls] start := by
  obtain ⟨lookahead, asked, isEnd⟩ := ask_of_pull_end pulled noToken call
  rw [asked]
  exact ⟨.ended (by omega) isExhausted isEnd, pulls, within, isExhausted.symm⟩

/-- A call pulls at most once, and only if nothing is on show. -/
theorem Drawn.ask {start : Supply} {count : Nat} (drawn : Drawn start count stream) (call : Call) :
    Drawn start (count + stream.takes call) (stream.ask call).2 ∧
      ∃ pulls ≤ count + 1, (stream.ask call).2.supply = Supply.rest^[pulls] start := by
  cases drawn with
  | @fresh pulls within =>
    have within' : pulls + 1 ≤ count + 1 := Nat.succ_le_succ within
    have next : Supply.rest^[pulls + 1] start = (Supply.rest^[pulls] start).pull.2 :=
      Function.iterate_succ_apply' ..
    generalize Supply.rest^[pulls] start = supply at next
    have contents : supply.contents = (supply.contents.1, supply.contents.2) := rfl
    -- Nothing is on show, so the call pulls once more.
    rcases Supply.pull_of_contents contents with ⟨token, _, left, -, pulled, -⟩ |
      ⟨-, -, pulled⟩ | ⟨cause, -, -, pulled⟩
    · rw [pulled] at next
      obtain rfl := next
      rcases ask_of_pull_token pulled call with ⟨rfl, asked⟩ | ⟨asked, takesOne⟩
      · rw [asked]
        exact ⟨.seen within', pulls + 1, within', rfl⟩
      · rw [asked, takesOne]
        exact ⟨.fresh within', pulls + 1, within', rfl⟩
    · rw [pulled] at next
      exact drawn_of_pull_end within' next pulled (by simp) call
    · rw [pulled] at next
      exact drawn_of_pull_end within' next pulled (by simp) call
  | @seen pulls token within =>
    cases call with
    | peek => exact ⟨.seen within, pulls, within, rfl⟩
    | read => exact ⟨.fresh within, pulls, within, rfl⟩
  | @ended pulls lookahead within isExhausted isEnd =>
    cases lookahead with
    | none =>
      -- A supply at its end stays there, so this pull need not be counted.
      have pulled : Supply.exhausted.pull = (.ok none, .exhausted) := rfl
      exact drawn_of_pull_end within isExhausted pulled (by simp) call
    | some shown =>
      obtain rfl := isEnd shown rfl
      cases call with
      | peek => exact ⟨.ended within isExhausted isEnd, pulls, within, isExhausted.symm⟩
      | read => exact ⟨.ended within isExhausted (by simp), pulls, within, isExhausted.symm⟩

theorem drawn_afterCalls (isFresh : stream.lookahead = none) (calls : List Call) :
    Drawn stream.supply (stream.taken calls) (stream.afterCalls calls) := by
  induction calls using List.reverseRecOn with
  | nil =>
    obtain ⟨supply, lookahead⟩ := stream
    obtain rfl : lookahead = none := isFresh
    exact .fresh (Nat.zero_le 0)
  | append_singleton calls call ih =>
    rw [taken_concat, afterCalls_concat]
    exact (ih.ask call).1

/-! ## Fresh streams -/

/-- A stream that has not looked ahead serves what its supply has to give. -/
theorem serves_of_fresh (isFresh : stream.lookahead = none)
    (contents : stream.supply.contents = (tokens, fault)) : stream.Serves tokens fault := by
  have offers : Offers stream tokens fault := by
    obtain ⟨supply, lookahead⟩ := stream
    obtain rfl : lookahead = none := isFresh
    exact ⟨false, .fresh contents⟩
  constructor
  case within =>
    intro calls
    cases offers.along calls with
    | before _ within _ => exact within
    | behind _ spent _ => exact Nat.le_of_eq spent
  case inOrder =>
    intro calls call more
    cases offers.along calls with
    | before _ _ offers =>
      rw [List.drop_eq_getElem_cons more] at offers
      exact (offers.token call).1
    | behind _ spent _ => exact absurd spent (Nat.ne_of_lt more)
  case atEnd =>
    rintro rfl calls call spent
    cases offers.along calls with
    | before _ _ offers =>
      rw [spent, List.drop_length] at offers
      exact (offers.atEnd call).1
    | behind _ _ offers => exact (offers.atEnd call).1
  case atFault =>
    rintro cause rfl calls call spent isFirst
    cases offers.along calls with
    | before _ _ offers =>
      rw [spent, List.drop_length] at offers
      exact (offers.atEnd call).1
    | behind reached _ _ => exact absurd reached isFirst
  case behindFault =>
    intro cause _ calls call reached
    cases offers.along calls with
    | before notReached _ _ => exact absurd reached notReached
    | behind _ _ offers => exact (offers.atEnd call).1
  case onDemand =>
    intro calls call
    rw [afterCalls_concat]
    exact ((drawn_afterCalls isFresh calls).ask call).2

end Calls

/-- The stream of a list, and the stream of a text, serve their tokens under all calls, the text
with the fault behind them, if there is one. -/
theorem serves_calls :
    (∀ tokens : List Token, (ofTokens tokens).Serves tokens none) ∧
      ∀ source : String,
        (ofString source).Serves (Lexer.tokens source).1 (Lexer.tokens source).2 :=
  ⟨fun _ => serves_of_fresh rfl rfl, fun _ => serves_of_fresh rfl rfl⟩

/-- A character that starts no token is reported by the first call behind the variable, and by no
later one. -/
theorem serves_calls_illegalCharacter :
    let name : Token := ⟨.identifier, "x", ⟨1, 1⟩⟩
    (ofString "x#").answer [.peek] .read = .ok (some name) ∧
      (ofString "x#").answer [.read] .peek = .error (.illegalCharacter '#' ⟨1, 2⟩) ∧
      (ofString "x#").answer [.read, .peek] .read = .ok none := by
  intro name
  have serves := serves_calls.2 "x#"
  have lexed : Lexer.tokens "x#" = ([name], some (.illegalCharacter '#' ⟨1, 2⟩)) := by
    decide +kernel
  rw [lexed] at serves
  have reads : (ofString "x#").taken [.read] = 1 := by decide +kernel
  have notReached : ¬ (ofString "x#").ReachesEnd [name] [.read] := by
    rw [← List.nil_append [Call.read], reachesEnd_concat]
    simp [not_reachesEnd_nil]
  exact ⟨serves.inOrder [.peek] .read Nat.zero_lt_one,
    serves.atFault rfl [.read] .peek reads notReached,
    serves.behindFault rfl [.read, .peek] .read ⟨[.read], .peek, List.prefix_rfl, reads⟩⟩

end Stream

end JamLang
