import JamLang.Proofs.Program.Ending

/-!
# Faults are found at the earliest token

The parser reads from the left and stops at the first token that no program goes on with.  It has
read that token and none behind it, so the stream that is left says exactly where the fault was
found.  If the tokens end too early it has read them all, and they could have gone on to a program.

That the tokens before the fault can go on to a program is what the routines guarantee
(`ProgramEnd`).  That the token at fault cannot be saved follows from how dialogues work: a routine
that has not looked behind that token would refuse it in every program.
-/

namespace JamLang

open Grammar Dialogue

/-- Nothing is left of the stream. -/
def Stream.IsSpent (stream : Stream) : Prop :=
  stream.supply = .exhausted ∧ ∀ shown ∈ stream.lookahead, shown = none

/-- A stream in step with a view at the end is spent. -/
theorem Stream.Stands.isSpent {fault : Option LexicalFault} {stream : Stream}
    (stands : Stands fault stream ⟨[], true⟩) : stream.IsSpent := by
  cases stands with
  | ended isEnd isSound => exact ⟨rfl, isEnd⟩

/-- What was found, a token or the end, comes right behind `before`, and `after` is all that is left
unread. -/
inductive FoundBehind (tokens before : List Token) : Option Token → Stream → Prop where
  | token {found : Token} {rest : List Token} (split : tokens = before ++ found :: rest) :
      FoundBehind tokens before (some found) (.ofTokens rest)
  | theEnd {after : Stream} (same : before = tokens) (isSpent : after.IsSpent) :
      FoundBehind tokens before none after

/-- What was found, a token or the end, comes right behind `before`, and the view is on what is left
then. -/
inductive FoundAt (tokens before : List Token) : Option Token → View → Prop where
  | token {found : Token} {rest : List Token} (split : tokens = before ++ found :: rest) :
      FoundAt tokens before (some found) ⟨rest, false⟩
  | theEnd (same : before = tokens) : FoundAt tokens before none ⟨[], true⟩

theorem FoundAt.behind {tokens before : List Token} {found : Option Token} {view : View}
    {after : Stream} (foundAt : FoundAt tokens before found view)
    (stands : Stream.Stands none after view) (isList : after.supply.IsList) :
    FoundBehind tokens before found after := by
  cases foundAt with
  | token split =>
    obtain rfl := stands.eq_ofTokens isList
    exact .token split
  | theEnd same => exact .theEnd same stands.isSpent

namespace Parse

variable {tokens : List Token}

/-- A fault of the grammar names the last token that was read, or the end, and is right about the
tokens before it. -/
theorem exists_foundAt {fault : SyntaxFault}
    (fails : (ending tokens).1 = .error (.grammar fault)) :
    ∃ before, FoundAt tokens before fault.diagnostic.found (ending tokens).2 ∧
      fault.IsTrueAfter before := by
  have programEnd := programEnd_ending tokens
  generalize ending tokens = ending at fails programEnd
  cases programEnd with
  | accepted | unreadable => simp at fails
  | @refused consumed rest found _ split isFound isTrue =>
    obtain rfl := Fault.grammar.inj (Except.error.inj fails)
    exact ⟨consumed, isFound ▸ .token split, isTrue⟩
  | cutShort isFound isTrue =>
    obtain rfl := Fault.grammar.inj (Except.error.inj fails)
    exact ⟨tokens, isFound ▸ .theEnd rfl, isTrue⟩

theorem exists_foundBehind {fault : SyntaxFault} {after : Stream}
    (fails : program.run (.ofTokens tokens) = (.error (.grammar fault), after)) :
    ∃ before, FoundBehind tokens before fault.diagnostic.found after ∧ fault.IsTrueAfter before := by
  obtain ⟨after', runs, stands, isList⟩ := run_program_ofTokens tokens
  obtain ⟨isFault, rfl⟩ := Prod.mk.inj (runs.symm.trans fails)
  obtain ⟨before, foundAt, isTrue⟩ := exists_foundAt isFault
  exact ⟨before, foundAt.behind stands isList, isTrue⟩

/-- What parsing a readable list of tokens comes to: the answer, and the stream that is left. -/
inductive ListEnd (tokens : List Token) : Except Fault Node × Stream → Prop where
  /-- The tokens are a program, and all were read. -/
  | accepted {tree : Node} {after : Stream} (derives : Derives .expression tokens tree)
      (isSpent : after.IsSpent) : ListEnd tokens (.ok tree, after)
  /-- The tokens before `found` can go on to a program, but not with `found`, which was read last. -/
  | refused {fault : SyntaxFault} {consumed rest : List Token} {found : Token}
      (split : tokens = consumed ++ found :: rest) (isFound : fault.diagnostic.found = some found)
      (starts : StartsProgram consumed) (stuck : ¬ StartsProgram (consumed ++ [found])) :
      ListEnd tokens (.error (.grammar fault), .ofTokens rest)
  /-- The tokens can go on to a program but are none, and all were read. -/
  | cutShort {fault : SyntaxFault} {after : Stream} (isFound : fault.diagnostic.found = none)
      (isSpent : after.IsSpent) (starts : StartsProgram tokens) (notProgram : ¬ IsProgram tokens) :
      ListEnd tokens (.error (.grammar fault), after)

theorem listEnd_run (readable : Readable tokens) :
    ListEnd tokens (program.run (.ofTokens tokens)) := by
  obtain ⟨after, runs, stands, isList⟩ := run_program_ofTokens tokens
  rw [runs]
  have programEnd := programEnd_ending tokens
  generalize ends : ending tokens = ending at programEnd stands
  cases programEnd with
  | accepted derives => exact .accepted derives stands.isSpent
  | @refused consumed rest found fault split isFound isTrue =>
    -- Nothing behind `found` was looked at, so the stream holds all of `rest`.
    obtain rfl := stands.eq_ofTokens isList
    have split' : tokens = (consumed ++ [found]) ++ rest := by simp [split]
    have readable' : Readable (consumed ++ [found]) := (split' ▸ readable).left
    exact .refused split isFound isTrue.startsProgram
      (not_startsProgram_of_refused readable' (split' ▸ ends))
  | cutShort isFound isTrue =>
    refine .cutShort isFound stands.isSpent isTrue.startsProgram ?_
    rintro ⟨tree, derives⟩
    rw [ending_of_derives derives readable] at ends
    simp at ends
  | @unreadable consumed rest token fault split isInteger fails =>
    have isToken : token ∈ tokens := by simp [split]
    obtain ⟨value, isRead⟩ := readable token isToken isInteger
    exact absurd (isRead.symm.trans fails) (by simp)

/-- A report on a list of tokens names the first token that no program goes on with, and nothing
behind it was read; or it names none, and the tokens, all read, could go on to a program.  Whoever
accepts has read everything. -/
theorem earliest_fault (tokens : List Token) (readable : Readable tokens) :
    (∀ fault diagnostic after found,
        program.run (.ofTokens tokens) = (.error fault, after) →
        fault.diagnostic? = some diagnostic → diagnostic.found = some found →
        ∃ i, ∃ inside : i < tokens.length, tokens[i] = found ∧
          after = .ofTokens (tokens.drop (i + 1)) ∧ StartsProgram (tokens.take i) ∧
          ¬ StartsProgram (tokens.take (i + 1))) ∧
      (∀ fault diagnostic after, program.run (.ofTokens tokens) = (.error fault, after) →
        fault.diagnostic? = some diagnostic → diagnostic.found = none →
        after.IsSpent ∧ StartsProgram tokens ∧ ¬ IsProgram tokens) ∧
      (∀ tree after, program.run (.ofTokens tokens) = (.ok tree, after) → after.IsSpent) := by
  have listEnd := listEnd_run readable
  generalize program.run (.ofTokens tokens) = ending at listEnd
  refine ⟨fun fault diagnostic after found ends reports isFound => ?_,
    fun fault diagnostic after ends reports isFound => ?_, fun tree after ends => ?_⟩
  · subst ends
    cases listEnd with
    | @refused fault consumed rest found' split isFound' starts stuck =>
      obtain rfl := Option.some.inj reports
      obtain rfl := Option.some.inj (isFound'.symm.trans isFound)
      have upTo : tokens.take (consumed.length + 1) = consumed ++ [found'] := by
        have split' : tokens = (consumed ++ [found']) ++ rest := by simp [split]
        rw [split', List.take_left' (by simp)]
      refine ⟨consumed.length, by simp [split], by simp [split], by simp [split], ?_, upTo ▸ stuck⟩
      simpa [split] using starts
    | cutShort isFound' =>
      obtain rfl := Option.some.inj reports
      exact absurd (isFound'.symm.trans isFound) (by simp)
  · subst ends
    cases listEnd with
    | refused _ isFound' =>
      obtain rfl := Option.some.inj reports
      exact absurd (isFound'.symm.trans isFound) (by simp)
    | cutShort _ isSpent starts notProgram => exact ⟨isSpent, starts, notProgram⟩
  · subst ends
    cases listEnd with
    | accepted _ isSpent => exact isSpent

/-- A function without the word `to`: the second variable is refused, and the third never read.
Cut off before it, the function could still go on. -/
theorem earliest_fault_mapTo :
    let mapWord : Token := ⟨.mapWord, "map", .unknown⟩
    let name : Token := ⟨.identifier, "x", .unknown⟩
    Readable [mapWord, name, name, name] ∧
      (∃ i, ∃ inside : i < 4, [mapWord, name, name, name][i] = name ∧
        Stream.ofTokens [name] = .ofTokens ([mapWord, name, name, name].drop (i + 1)) ∧
        StartsProgram ([mapWord, name, name, name].take i) ∧
        ¬ StartsProgram ([mapWord, name, name, name].take (i + 1))) ∧
      Readable [mapWord, name] ∧
      ((Stream.ofTokens []).IsSpent ∧ StartsProgram [mapWord, name] ∧
        ¬ IsProgram [mapWord, name]) ∧
      Readable [name] ∧ program.run (.ofTokens [name]) = (.ok (.var "x" .unknown), .ofTokens []) ∧
      (Stream.ofTokens []).IsSpent := by
  intro mapWord name
  have readable : Readable [mapWord, name, name, name] := by simp [Readable, mapWord, name]
  have readable' : Readable [mapWord, name] := by simp [Readable, mapWord, name]
  have readable'' : Readable [name] := by simp [Readable, name]
  have accepts : program.run (.ofTokens [name]) = (.ok (.var "x" .unknown), .ofTokens []) := rfl
  exact ⟨readable,
    (earliest_fault _ readable).1 (.grammar (.unexpected (some name) .toOrComma)) _ _ _ rfl rfl rfl,
    readable',
    (earliest_fault _ readable').2.1 (.grammar (.unexpected none .toOrComma)) _ _ rfl rfl rfl,
    readable'', accepts, (earliest_fault _ readable'').2.2 _ _ accepts⟩

end Parse

end JamLang
