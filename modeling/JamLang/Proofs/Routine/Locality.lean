import JamLang.Proofs.Routine.Ending

/-!
# Routines see one token ahead

Each routine of the grammar reads the tokens it owns and at most looks at the kind of the next one.
So what it yields depends on the tokens that it has read and on that kind, and on nothing behind:
with other tokens there it yields the same, and it leaves them all to be read.  A routine that
refuses a token has read it last, and has not looked at what follows.

Both are one fact about dialogues (`on_append`).  What is left to show is that the bounds on the
depth of calls, which differ for lists of different lengths, make no difference (`Suffices`).
-/

namespace JamLang.Parse

open Dialogue (Settles View boundForAll boundBehindLead)
open JamLang.Stream (Stands)

variable {α β : Type}

/-- A computation on a list of tokens that is settled by what it reads and the kind of the next
token. -/
structure IsLocal (routine : Parse α) : Prop where
  /-- What it yields, it yields before other tokens too, if the next one is of the same kind or
  there is none in both cases; and these other tokens are what is left to be read. -/
  accepted {tokens : List Token} {value : α} {after : Stream}
    (succeeds : routine.run (.ofTokens tokens) = (.ok value, after)) :
    ∃ consumed, tokens = consumed ++ after.unread ∧
      ∀ other, other.head?.map Token.kind = after.unread.head?.map Token.kind →
        ∃ after', routine.run (.ofTokens (consumed ++ other)) = (.ok value, after') ∧
          after'.unread = other
  /-- A token that it refuses is the last one read, and it refuses it before any other tokens too,
  which are left untouched. -/
  refused {tokens : List Token} {fault : Fault} {diagnostic : Diagnostic} {found : Token}
    {after : Stream} (fails : routine.run (.ofTokens tokens) = (.error fault, after))
    (reports : fault.diagnostic? = some diagnostic) (isFound : diagnostic.found = some found) :
    ∃ before rest, tokens = before ++ found :: rest ∧ after = .ofTokens rest ∧
      ∀ other, routine.run (.ofTokens (before ++ found :: other)) =
        (.error fault, .ofTokens other)

/-! ## Dialogues that settle are local -/

section Settled

variable {routine : Parse α} {enough : Nat → Nat} {dialogue : Nat → Dialogue α}

/-- The routine is the dialogue, with the bound that goes with the number of tokens. -/
def Holds (routine : Parse α) (enough : Nat → Nat) (dialogue : Nat → Dialogue α) : Prop :=
  ∀ tokens, routine.run (.ofTokens tokens) =
    (ofDialogue (dialogue (enough tokens.length))).run (.ofTokens tokens)

theorem Holds.exists_run (holds : Holds routine enough dialogue) {tokens : List Token}
    {result : Except Fault α} {view : View}
    (ends : (dialogue (enough tokens.length)).on ⟨tokens, false⟩ = (result, view)) :
    ∃ after, routine.run (.ofTokens tokens) = (result, after) ∧ Stands none after view ∧
      after.supply.IsList := by
  have runs := run_ofDialogue_ofTokens (dialogue (enough tokens.length)) tokens
  rwa [← holds tokens, ends] at runs

/-- What a run comes to is what the dialogue comes to. -/
theorem Holds.exists_on (holds : Holds routine enough dialogue) {tokens : List Token}
    {result : Except Fault α} {after : Stream}
    (ran : routine.run (.ofTokens tokens) = (result, after)) :
    ∃ view, (dialogue (enough tokens.length)).on ⟨tokens, false⟩ = (result, view) ∧
      Stands none after view ∧ after.supply.IsList := by
  obtain ⟨after', ran', stands, isList⟩ := holds.exists_run rfl
  obtain ⟨rfl, rfl⟩ := Prod.mk.inj (ran.symm.trans ran')
  exact ⟨_, rfl, stands, isList⟩

theorem Holds.isLocal (holds : Holds routine enough dialogue)
    (settles : Settles enough dialogue) : routine.IsLocal where
  accepted {tokens value after} succeeds := by
    obtain ⟨view, ends, stands, -⟩ := holds.exists_on succeeds
    have settled := settles.settled tokens
    rw [ends] at settled
    cases settled with
    | @accepted consumed rest _ looked split =>
      rw [stands.unread_eq]
      refine ⟨consumed, split, fun other same => ?_⟩
      rw [split] at ends
      have ends' := settles.suffices.on_append ends fun _ => same
      obtain ⟨after', ran, stands', -⟩ := holds.exists_run ends'
      exact ⟨after', ran, stands'.unread_eq⟩
  refused {tokens fault diagnostic found after} fails reports isFound := by
    obtain ⟨view, ends, stands, isList⟩ := holds.exists_on fails
    have settled := settles.settled tokens
    rw [ends] at settled
    cases settled with
    | @refused consumed rest token fault split isToken =>
      obtain rfl : fault.diagnostic = diagnostic := Option.some.inj reports
      obtain rfl : token = found := Option.some.inj (isToken.symm.trans isFound)
      obtain rfl := stands.eq_ofTokens isList
      refine ⟨consumed, rest, split, rfl, fun other => ?_⟩
      rw [split, ← List.singleton_append, ← List.append_assoc] at ends
      have ends' := settles.suffices.on_append_of_not_looked ends other
      obtain ⟨after', ran, stands', isList'⟩ := holds.exists_run ends'
      obtain rfl := stands'.eq_ofTokens isList'
      simpa using ran
    | cutShort isEnd =>
      obtain rfl := Option.some.inj reports
      simp [isEnd] at isFound
    | unreadable => simp [Fault.diagnostic?] at reports

theorem isLocal_bounded (settles : Settles boundForAll dialogue) : (bounded dialogue).IsLocal :=
  Holds.isLocal (fun _ => rfl) settles

theorem isLocal_withLead {dialogue : Nat → Option Token → Dialogue α}
    (settles : Settles boundBehindLead fun bound => Dialogue.read.bind (dialogue bound)) :
    (withLead dialogue).IsLocal := by
  have holds : Holds (withLead dialogue) boundBehindLead
      fun bound => Dialogue.read.bind (dialogue bound) := by
    intro tokens
    cases tokens <;> rfl
  exact holds.isLocal settles

end Settled

/-! ## What is yielded may be wrapped -/

section Wrapped

variable {wrap : α → β} {routine : Parse α} {stream after : Stream}

theorem run_map_eq_ok {value : β} :
    (wrap <$> routine).run stream = (.ok value, after) ↔
      ∃ inner, routine.run stream = (.ok inner, after) ∧ wrap inner = value := by
  rw [run_map]
  rcases routine.run stream with ⟨result, after'⟩
  cases result with
  | ok inner =>
    constructor
    · intro same
      cases same
      exact ⟨inner, rfl, rfl⟩
    · rintro ⟨_, same, rfl⟩
      cases same
      rfl
  | error fault =>
    constructor
    · intro same
      cases same
    · rintro ⟨_, same, _⟩
      cases same

theorem run_map_eq_error {fault : Fault} :
    (wrap <$> routine).run stream = (.error fault, after) ↔
      routine.run stream = (.error fault, after) := by
  rw [run_map]
  rcases routine.run stream with ⟨result, after'⟩
  cases result with
  | ok inner => constructor <;> intro same <;> cases same
  | error cause =>
    constructor <;> intro same <;> cases same <;> rfl

theorem IsLocal.map (isLocal : routine.IsLocal) (wrap : α → β) :
    (wrap <$> routine).IsLocal where
  accepted {tokens value after} succeeds := by
    obtain ⟨inner, ran, rfl⟩ := run_map_eq_ok.1 succeeds
    obtain ⟨consumed, split, alike⟩ := isLocal.accepted ran
    refine ⟨consumed, split, fun other same => ?_⟩
    obtain ⟨after', ran', left⟩ := alike other same
    exact ⟨after', run_map_eq_ok.2 ⟨inner, ran', rfl⟩, left⟩
  refused {tokens fault diagnostic found after} fails reports isFound := by
    obtain ⟨before, rest, split, left, alike⟩ :=
      isLocal.refused (run_map_eq_error.1 fails) reports isFound
    exact ⟨before, rest, split, left, fun other => run_map_eq_error.2 (alike other)⟩

end Wrapped

end JamLang.Parse

namespace JamLang

open Dialogue Parse

/-- Each routine is settled by the tokens that it reads and the kind of the next one. -/
theorem Routine.run_isLocal (routine : Routine) : routine.run.IsLocal := by
  cases routine with
  | program => exact (isLocal_bounded settles_program).map Yield.tree
  | expression => exact (isLocal_bounded settles_expression).map Yield.tree
  | term => exact (isLocal_withLead settles_term).map Yield.tree
  | factor => exact (isLocal_withLead settles_factor).map Yield.tree
  | conditional => exact (isLocal_withLead settles_conditional).map Yield.tree
  | letIn => exact (isLocal_withLead settles_letIn).map Yield.tree
  | mapTo => exact (isLocal_withLead settles_mapTo).map Yield.tree
  | definition => exact (isLocal_withLead settles_definition).map Yield.tree
  | expressions separator delimiter =>
    exact (isLocal_bounded (settles_expressions separator delimiter)).map Yield.trees
  | arguments => exact (isLocal_bounded (settles_expressions .comma .rightParen)).map Yield.trees
  | mapVariables => exact (isLocal_bounded settles_mapVariables).map Yield.trees
  | definitions => exact (isLocal_bounded settles_definitions).map Yield.trees

/-- A term that was read in front of a semicolon is read in front of another one and a number, too; a
number in the place of a variable is refused in front of a variable as it is at the end. -/
theorem Routine.run_isLocal_variable :
    let name : Token := ⟨.identifier, "f", .unknown⟩
    let number : Token := ⟨.integer, "1", .unknown⟩
    let semicolon : Token := ⟨.semicolon, ";", ⟨1, 2⟩⟩
    let elsewhere : Token := ⟨.semicolon, ";", ⟨2, 1⟩⟩
    let refusal : Fault := .grammar (.unexpected (some number) .variable)
    Routine.term.run (.ofTokens [name, semicolon]) =
        (.ok (.tree (.var "f" .unknown)), ⟨.exhausted, some (some semicolon)⟩) ∧
      (∃ after, Routine.term.run (.ofTokens [name, elsewhere, number]) =
          (.ok (.tree (.var "f" .unknown)), after) ∧ after.unread = [elsewhere, number]) ∧
      Routine.mapVariables.run (.ofTokens [number]) = (.error refusal, .ofTokens []) ∧
      Routine.mapVariables.run (.ofTokens [number, name]) = (.error refusal, .ofTokens [name]) := by
  intro name number semicolon elsewhere refusal
  have succeeds : Routine.term.run (.ofTokens [name, semicolon]) =
      (.ok (.tree (.var "f" .unknown)), ⟨.exhausted, some (some semicolon)⟩) := rfl
  have fails : Routine.mapVariables.run (.ofTokens [number]) =
      (.error refusal, .ofTokens []) := rfl
  refine ⟨succeeds, ?_, fails, ?_⟩
  · obtain ⟨consumed, split, alike⟩ := (Routine.run_isLocal .term).accepted succeeds
    have split : [name] ++ [semicolon] = consumed ++ [semicolon] := split
    obtain rfl := List.append_cancel_right split
    exact alike [elsewhere, number] rfl
  · obtain ⟨before, left, split, -, alike⟩ :=
      (Routine.run_isLocal .mapVariables).refused fails rfl rfl
    cases before with
    | nil => exact alike [name]
    | cons token before => simp at split

end JamLang
