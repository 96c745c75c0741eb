import JamLang.Proofs.Dialogue.View

/-!
# Routines that recognise phrases

A language with a meaning relates lists of tokens to what they stand for.  A routine recognises
such a language if, on every list of tokens, it either takes a phrase off the front and yields what
the phrase stands for, or stops at the right moment: at the last token it read, where the tokens
before it can still be completed to a phrase with any of the tokens the fault asks for, or at the
end of the tokens.  The end of a routine is an `Outcome`; the lemmas below build the outcomes of a
routine from those of its steps, so that proofs about routines follow their text.

A routine may have a lead, a list of tokens that was read before it started and that belongs to its
phrase.  The limit bounds the number of tokens that are left, which is what a bound on the depth of
calls has to cover.
-/

namespace JamLang

/-! ## What a fault asks for -/

/-- The tokens that an expectation names. -/
def Expectation.Admits (token : Token) : Expectation → Prop
  | .thenWord => token.kind = .thenWord
  | .elseWord => token.kind = .elseWord
  | .closingParen => token.kind = .rightParen
  | .bind => token.kind = .bind
  | .semicolon => token.kind = .semicolon
  | .variable => token.kind = .identifier
  | .commaOrParen => token.kind = .comma ∨ token.kind = .rightParen
  | .toOrComma => token.kind = .toWord ∨ token.kind = .comma
  | .operand =>
    token.kind ∈ TokenKind.constants ∨ token.kind = .primitive ∨ token.kind = .identifier ∨
      token.kind = .leftParen
  | .unaryOperator => token.kind = .operator ∧ token.text ∈ Vocabulary.unaryOperators
  | .binaryOperator => token.kind = .operator ∧ token.text ∈ Vocabulary.binaryOperators
  | .worded _ => False

/-- A language: lists of tokens and what they stand for. -/
abbrev Phrases (α : Type) := List Token → α → Prop

namespace Phrases

variable {α β : Type} {phrases other : Phrases α} {following : α → Phrases β}
  {tokens consumed rest : List Token} {value : α} {expected : Expectation}

/-! ## Languages -/

/-- Some list of tokens is a phrase. -/
def Inhabited (phrases : Phrases α) : Prop :=
  ∃ tokens value, phrases tokens value

/-- The tokens start a phrase. -/
def Viable (phrases : Phrases α) (tokens : List Token) : Prop :=
  ∃ rest value, phrases (tokens ++ rest) value

/-- The tokens can go on with whatever the expectation names, and it names something. -/
def Repairable (phrases : Phrases α) (tokens : List Token) (expected : Expectation) : Prop :=
  (∃ token, expected.Admits token) ∧
    ∀ token, expected.Admits token → phrases.Viable (tokens ++ [token])

/-- A phrase and then another, which depends on what the first one stands for. -/
def seq (phrases : Phrases α) (following : α → Phrases β) : Phrases β :=
  fun tokens value =>
    ∃ first second middle, tokens = first ++ second ∧ phrases first middle ∧
      following middle second value

/-- The phrases that start with given tokens, which stand for nothing. -/
def after (consumed : List Token) (phrases : Phrases α) : Phrases α :=
  fun tokens value => ∃ rest, tokens = consumed ++ rest ∧ phrases rest value

/-- The phrases with a token of a kind behind them. -/
def endedBy (kind : TokenKind) (phrases : Phrases α) : Phrases α :=
  fun tokens value =>
    ∃ first token, tokens = first ++ [token] ∧ token.kind = kind ∧ phrases first value

/-- No tokens, which stand for a value. -/
def nothing (value : α) : Phrases α :=
  fun tokens result => tokens = [] ∧ result = value

/-- A single token of a kind. -/
def one (kind : TokenKind) : Phrases Token :=
  fun tokens token => tokens = [token] ∧ token.kind = kind

theorem Viable.inhabited (viable : phrases.Viable tokens) : phrases.Inhabited := by
  obtain ⟨rest, value, isPhrase⟩ := viable
  exact ⟨_, value, isPhrase⟩

theorem Viable.mono (included : ∀ tokens value, phrases tokens value → other tokens value)
    (viable : phrases.Viable tokens) : other.Viable tokens := by
  obtain ⟨rest, value, isPhrase⟩ := viable
  exact ⟨rest, value, included _ _ isPhrase⟩

theorem Viable.after (viable : phrases.Viable tokens) (consumed : List Token) :
    (phrases.after consumed).Viable (consumed ++ tokens) := by
  obtain ⟨rest, value, isPhrase⟩ := viable
  exact ⟨rest, value, tokens ++ rest, List.append_assoc .., isPhrase⟩

/-- The start of a first phrase starts the sequence, because the sequence can be completed. -/
theorem Viable.seq_left (viable : phrases.Viable tokens)
    (goesOn : ∀ value, (following value).Inhabited) : (phrases.seq following).Viable tokens := by
  obtain ⟨rest, middle, isPhrase⟩ := viable
  obtain ⟨second, value, follows⟩ := goesOn middle
  exact ⟨rest ++ second, value, tokens ++ rest, second, middle, (List.append_assoc ..).symm,
    isPhrase, follows⟩

theorem Viable.seq_right (isPhrase : phrases consumed value)
    (viable : (following value).Viable tokens) :
    (phrases.seq following).Viable (consumed ++ tokens) := by
  obtain ⟨rest, result, follows⟩ := viable
  exact ⟨rest, result, consumed, tokens ++ rest, value, List.append_assoc .., isPhrase, follows⟩

/-- What an expectation names still makes a phrase possible, so the tokens before it do. -/
theorem Repairable.viable (repairable : phrases.Repairable tokens expected) :
    phrases.Viable tokens := by
  obtain ⟨⟨token, admitted⟩, goesOn⟩ := repairable
  obtain ⟨rest, value, isPhrase⟩ := goesOn token admitted
  exact ⟨token :: rest, value, by simpa using isPhrase⟩

theorem Repairable.mono (included : ∀ tokens value, phrases tokens value → other tokens value)
    (repairable : phrases.Repairable tokens expected) : other.Repairable tokens expected :=
  ⟨repairable.1, fun token admitted => (repairable.2 token admitted).mono included⟩

theorem Repairable.after (repairable : phrases.Repairable tokens expected)
    (consumed : List Token) : (phrases.after consumed).Repairable (consumed ++ tokens) expected :=
  ⟨repairable.1, fun token admitted => by
    simpa using (repairable.2 token admitted).after consumed⟩

theorem Repairable.seq_left (repairable : phrases.Repairable tokens expected)
    (goesOn : ∀ value, (following value).Inhabited) :
    (phrases.seq following).Repairable tokens expected :=
  ⟨repairable.1, fun token admitted => (repairable.2 token admitted).seq_left goesOn⟩

theorem Repairable.seq_right (isPhrase : phrases consumed value)
    (repairable : (following value).Repairable tokens expected) :
    (phrases.seq following).Repairable (consumed ++ tokens) expected :=
  ⟨repairable.1, fun token admitted => by
    simpa using Viable.seq_right isPhrase (repairable.2 token admitted)⟩

/-! ## Outcomes -/

/-- How a routine that recognises a language may end, and what it leaves. -/
inductive Outcome (phrases : Phrases α) (tokens : List Token) :
    Except Fault α × Dialogue.View → Prop where
  /-- A phrase was taken off the front. -/
  | accepted {consumed rest : List Token} {value : α} {looked : Bool}
      (split : tokens = consumed ++ rest) (isPhrase : phrases consumed value) :
      Outcome phrases tokens (.ok value, ⟨rest, looked⟩)
  /-- The last token read is not what the tokens before it ask for. -/
  | refused {consumed rest : List Token} {token : Token} {expected : Expectation}
      (split : tokens = consumed ++ token :: rest)
      (repairable : phrases.Repairable consumed expected) :
      Outcome phrases tokens
        (.error (.grammar (.unexpected (some token) expected)), ⟨rest, false⟩)
  /-- The tokens end where they should go on. -/
  | cutShort {expected : Expectation} (repairable : phrases.Repairable tokens expected) :
      Outcome phrases tokens (.error (.grammar (.unexpected none expected)), ⟨[], true⟩)
  /-- The last token read is an integer that cannot be read. -/
  | unreadable {consumed rest : List Token} {token : Token} {fault : Text.NumeralFault}
      (split : tokens = consumed ++ token :: rest) (isInteger : token.kind = .integer)
      (fails : Text.readInteger token.text = .error fault)
      (viable : phrases.Viable (consumed ++ [token])) :
      Outcome phrases tokens (.error (.numeral fault), ⟨rest, false⟩)

theorem Outcome.mono {ending : Except Fault α × Dialogue.View}
    (included : ∀ tokens value, phrases tokens value → other tokens value)
    (outcome : Outcome phrases tokens ending) : Outcome other tokens ending := by
  cases outcome with
  | accepted split isPhrase => exact .accepted split (included _ _ isPhrase)
  | refused split repairable => exact .refused split (repairable.mono included)
  | cutShort repairable => exact .cutShort (repairable.mono included)
  | unreadable split isInteger fails viable =>
    exact .unreadable split isInteger fails (viable.mono included)

theorem Outcome.after {ending : Except Fault α × Dialogue.View}
    (outcome : Outcome phrases tokens ending) (consumed : List Token) :
    Outcome (phrases.after consumed) (consumed ++ tokens) ending := by
  cases outcome with
  | accepted split isPhrase =>
    rw [split, ← List.append_assoc]
    exact .accepted rfl ⟨_, rfl, isPhrase⟩
  | refused split repairable =>
    rw [split, ← List.append_assoc]
    exact .refused rfl (repairable.after consumed)
  | cutShort repairable => exact .cutShort (repairable.after consumed)
  | unreadable split isInteger fails viable =>
    rw [split, ← List.append_assoc]
    exact .unreadable rfl isInteger fails (by simpa using viable.after consumed)

/-- Every outcome shows a phrase, or tokens that start one. -/
theorem Outcome.inhabited {ending : Except Fault α × Dialogue.View}
    (outcome : Outcome phrases tokens ending) : phrases.Inhabited := by
  cases outcome with
  | accepted _ isPhrase => exact ⟨_, _, isPhrase⟩
  | refused _ repairable => exact repairable.viable.inhabited
  | cutShort repairable => exact repairable.viable.inhabited
  | unreadable _ _ _ viable => exact viable.inhabited

/-- The outcome of a second routine, after a first one that took a phrase. -/
theorem Outcome.seq_right {ending : Except Fault β × Dialogue.View}
    (isPhrase : phrases consumed value) (outcome : Outcome (following value) tokens ending) :
    Outcome (phrases.seq following) (consumed ++ tokens) ending := by
  cases outcome with
  | accepted split follows =>
    rw [split, ← List.append_assoc]
    exact .accepted rfl ⟨consumed, _, value, rfl, isPhrase, follows⟩
  | refused split repairable =>
    rw [split, ← List.append_assoc]
    exact .refused rfl (.seq_right isPhrase repairable)
  | cutShort repairable => exact .cutShort (.seq_right isPhrase repairable)
  | unreadable split isInteger fails viable =>
    rw [split, ← List.append_assoc]
    exact .unreadable rfl isInteger fails (by simpa using Viable.seq_right isPhrase viable)

end Phrases

/-! ## Recognition -/

namespace Dialogue

open Phrases

variable {α β : Type} {phrases other : Phrases α} {following : α → Phrases β} {limit : Nat}
  {looked : Bool} {lead : List Token} {routine : Dialogue α}

/-- On every list of at most `limit` tokens the routine, whose lead has been read, ends as a
recogniser of the language does. -/
def Recognises (limit : Nat) (looked : Bool) (lead : List Token) (routine : Dialogue α)
    (phrases : Phrases α) : Prop :=
  ∀ rest, rest.length ≤ limit → Outcome phrases (lead ++ rest) (routine.on ⟨rest, looked⟩)

theorem Recognises.mono (recognises : Recognises limit looked lead routine phrases)
    (included : ∀ tokens value, phrases tokens value → other tokens value) :
    Recognises limit looked lead routine other :=
  fun rest within => (recognises rest within).mono included

/-- Tokens that were read before the lead belong to the phrase. -/
theorem Recognises.after (recognises : Recognises limit looked lead routine phrases)
    (consumed : List Token) :
    Recognises limit looked (consumed ++ lead) routine (phrases.after consumed) := by
  intro rest within
  rw [List.append_assoc]
  exact (recognises rest within).after consumed

theorem recognises_pure {value : α} (isPhrase : phrases lead value) :
    Recognises limit looked lead (pure value) phrases :=
  fun _ _ => .accepted rfl isPhrase

/-- The last token of the lead is refused. -/
theorem recognises_unexpected {consumed : List Token} {token : Token} {expected : Expectation}
    (repairable : phrases.Repairable consumed expected) :
    Recognises limit false (consumed ++ [token]) (unexpected (some token) expected) phrases :=
  fun _ _ => .refused (List.append_assoc ..) repairable

/-- The end is refused. -/
theorem outcome_unexpected_none {expected : Expectation}
    (repairable : phrases.Repairable lead expected) :
    Outcome phrases lead ((unexpected none expected : Dialogue α).on ⟨[], true⟩) :=
  .cutShort repairable

/-- Whatever a recogniser finds, it knows a phrase. -/
theorem Recognises.inhabited (recognises : Recognises limit looked lead routine phrases) :
    phrases.Inhabited :=
  (recognises [] (Nat.zero_le _)).inhabited

/-- One routine after another recognises one language after another. -/
theorem Recognises.bind {next : α → Dialogue β}
    (first : Recognises limit looked lead routine phrases)
    (second : ∀ value looked, Recognises limit looked [] (next value) (following value)) :
    Recognises limit looked lead (routine.bind next) (phrases.seq following) := by
  -- A fault of the first routine is a fault of both: what it asks for can go on to a whole phrase,
  -- because a second routine that recognises something knows some phrase to end with.
  have goesOn value : (following value).Inhabited := (second value true).inhabited
  intro rest within
  rw [on_bind]
  have outcome := first rest within
  generalize ended : routine.on ⟨rest, looked⟩ = ending at outcome
  cases outcome with
  | @accepted consumed left value looked' split isPhrase =>
    have shorter : left.length ≤ rest.length := length_le_of_on ended
    rw [split]
    exact .seq_right isPhrase (second value looked' left (Nat.le_trans shorter within))
  | refused split repairable => exact .refused split (repairable.seq_left goesOn)
  | cutShort repairable => exact .cutShort (repairable.seq_left goesOn)
  | unreadable split isInteger fails viable =>
    exact .unreadable split isInteger fails (viable.seq_left goesOn)

/-- Reading makes the next token part of the lead. -/
theorem recognises_read {next : Option Token → Dialogue α}
    (atToken : ∀ token left, limit = left + 1 →
      Recognises left false (lead ++ [token]) (next (some token)) phrases)
    (atEnd : Outcome phrases lead ((next none).on ⟨[], true⟩)) :
    Recognises limit looked lead (read.bind next) phrases := by
  intro rest within
  cases rest with
  | nil => simpa using atEnd
  | cons token rest =>
    obtain ⟨left, rfl⟩ := Nat.exists_eq_add_of_le' (Nat.one_le_of_lt within)
    simpa using atToken token left rfl rest (Nat.le_of_succ_le_succ within)

/-- A look at the next token decides whether to read it. -/
theorem recognises_whenNext {kind : TokenKind} {next : Option Token → Dialogue α}
    {otherwise : Dialogue α}
    (matching : ∀ token left, limit = left + 1 → token.kind = kind →
      Recognises left false (lead ++ [token]) (next (some token)) phrases)
    (differing : Recognises limit true lead otherwise phrases) :
    Recognises limit looked lead
      (peekKind.bind fun shown => if shown = some kind then read.bind next else otherwise)
      phrases := by
  intro rest within
  cases rest with
  | nil => simpa using differing [] within
  | cons token rest =>
    by_cases same : token.kind = kind
    · obtain ⟨left, rfl⟩ := Nat.exists_eq_add_of_le' (Nat.one_le_of_lt within)
      simpa [same] using matching token left rfl same rest (Nat.le_of_succ_le_succ within)
    · simpa [same] using differing (token :: rest) within

/-- A token that has to be of a kind. -/
theorem recognises_expect {kind : TokenKind} {expected : Expectation}
    (names : ∀ token, expected.Admits token ↔ token.kind = kind) :
    Recognises limit looked [] (expect kind expected) (one kind) := by
  have repairable : (one kind).Repairable [] expected :=
    ⟨⟨⟨kind, "", .unknown⟩, (names _).2 rfl⟩,
      fun token admitted => ⟨[], token, rfl, (names token).1 admitted⟩⟩
  refine recognises_read (fun token left _ => ?_) (outcome_unexpected_none repairable)
  by_cases same : token.kind = kind
  · simpa [same] using recognises_pure ⟨rfl, same⟩
  · simpa [same] using recognises_unexpected repairable

end Dialogue

end JamLang
