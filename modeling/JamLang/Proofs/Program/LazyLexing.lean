import JamLang.Proofs.Program.Ending

/-!
# Lexing on demand

A program is lexed while it is parsed.  This comes to the same as lexing the whole text first,
except that a fault of the text, behind all its tokens, may stand in the way: then the fault that
comes first in the text wins.  If one of the tokens is at fault, the parser stops there and never
learns of the fault behind.  Otherwise it would come to the end of the tokens and meets the fault
of the text instead, so a text with such a fault has no tree.

What decides between the two is whether the parser has seen the end of the tokens when it stops,
which is what an `ending` says.
-/

namespace JamLang

open Dialogue

/-- The fault lies with one of the tokens, rather than with their end. -/
def Fault.IsOfToken : Fault → Prop
  | .grammar fault => ∃ token, fault.diagnostic.found = some token
  | .numeral _ => True
  | _ => False

variable {tokens : List Token}

/-- Whoever stops before the end of the tokens blames one of them. -/
theorem isOfToken_of_ending (before : (ending tokens).2 ≠ ⟨[], true⟩) :
    ∃ cause, parseTokens tokens = .error cause ∧ cause.IsOfToken := by
  rw [Parse.parseTokens_eq]
  have programEnd := programEnd_ending tokens
  generalize ending tokens = ending at before programEnd
  cases programEnd with
  | accepted | cutShort => exact absurd rfl before
  | refused _ isFound => exact ⟨_, rfl, _, isFound⟩
  | unreadable => exact ⟨_, rfl, trivial⟩

/-- Whoever sees the end of the tokens accepts them, or blames the end. -/
theorem not_isOfToken_of_ending (atEnd : (ending tokens).2 = ⟨[], true⟩) {cause : Fault}
    (fails : parseTokens tokens = .error cause) :
    ∃ fault, cause = .grammar fault ∧ fault.diagnostic.found = none := by
  rw [Parse.parseTokens_eq] at fails
  have programEnd := programEnd_ending tokens
  generalize ending tokens = ending at atEnd fails programEnd
  cases programEnd with
  | accepted => simp at fails
  | refused | unreadable => simp at atEnd
  | cutShort isFound =>
    obtain rfl := Except.error.inj fails
    exact ⟨_, rfl, isFound⟩

theorem Fault.not_isOfToken {fault : SyntaxFault} (notFound : fault.diagnostic.found = none) :
    ¬ (Fault.grammar fault).IsOfToken := by
  rintro ⟨token, isFound⟩
  exact absurd (notFound.symm.trans isFound) (by simp)

/-- Without a fault of the text it makes no difference when the text is lexed. -/
theorem parse_of_tokens {source : String} (lexed : Lexer.tokens source = (tokens, none)) :
    parse source = parseTokens tokens := by
  have stands := Parse.stands_ofString source
  rw [lexed] at stands
  rcases Parse.run_program stands with ⟨after, runs, -⟩ | ⟨_, _, isFault, -⟩
  · rw [Parse.parseTokens_eq]
    exact congrArg Prod.fst runs
  · simp at isFault

/-- With a fault of the text, the parser either stops before the end of the tokens, or finds that
fault at their end. -/
theorem parse_of_tokens_fault {source : String} {fault : LexicalFault}
    (lexed : Lexer.tokens source = (tokens, some fault)) :
    ((ending tokens).2 ≠ ⟨[], true⟩ ∧ parse source = parseTokens tokens) ∨
      ((ending tokens).2 = ⟨[], true⟩ ∧ parse source = .error (.lexical fault)) := by
  have stands := Parse.stands_ofString source
  rw [lexed] at stands
  rcases Parse.run_program stands with ⟨after, runs, left⟩ | ⟨cause, after, isFault, atEnd, runs⟩
  · refine .inl ⟨fun atEnd => ?_, ?_⟩
    · -- A stream that is in step with the end has no fault to come, but here there is one.
      have isNone := (atEnd ▸ left).eq_none rfl
      simp at isNone
    · rw [Parse.parseTokens_eq]
      exact congrArg Prod.fst runs
  · obtain rfl := Option.some.inj isFault
    exact .inr ⟨atEnd, congrArg Prod.fst runs⟩

/-- Nothing but the tokens of a text, and its fault, decides what parsing it comes to. -/
theorem parse_congr {source other : String} (sameTokens : Lexer.tokens source = Lexer.tokens other) :
    parse source = parse other := by
  rcases lexed : Lexer.tokens source with ⟨tokens, fault⟩
  have lexed' := sameTokens.symm.trans lexed
  cases fault with
  | none => rw [parse_of_tokens lexed, parse_of_tokens lexed']
  | some fault =>
    rcases parse_of_tokens_fault lexed with ⟨before, same⟩ | ⟨atEnd, comesFirst⟩
    · rcases parse_of_tokens_fault lexed' with ⟨-, same'⟩ | ⟨atEnd, -⟩
      · rw [same, same']
      · exact absurd atEnd before
    · rcases parse_of_tokens_fault lexed' with ⟨before, -⟩ | ⟨-, comesFirst'⟩
      · exact absurd atEnd before
      · rw [comesFirst, comesFirst']

/-- A text that has a tree has no fault, and its tokens have that tree. -/
theorem tokens_of_parse {source : String} {tree : Node} (parses : parse source = .ok tree) :
    ∃ tokens, Lexer.tokens source = (tokens, none) ∧ parseTokens tokens = .ok tree := by
  rcases lexed : Lexer.tokens source with ⟨tokens, fault⟩
  cases fault with
  | none => exact ⟨tokens, rfl, (parse_of_tokens lexed).symm.trans parses⟩
  | some fault =>
    rcases parse_of_tokens_fault lexed with ⟨before, same⟩ | ⟨-, comesFirst⟩
    · obtain ⟨cause, fails, -⟩ := isOfToken_of_ending before
      exact absurd (parses.symm.trans (same.trans fails)) (by simp)
    · exact absurd (parses.symm.trans comesFirst) (by simp)

/-- Parsing a text is parsing its tokens if there is no fault of the text.  If there is one behind
the tokens, a fault of one of them is reported, and in all other cases, that is on acceptance and
on a fault of the end, the fault of the text. -/
theorem parse_on_demand (source : String) (tokens : List Token) :
    (Lexer.tokens source = (tokens, none) → parse source = parseTokens tokens) ∧
      ∀ fault, Lexer.tokens source = (tokens, some fault) →
        (∀ cause, parseTokens tokens = .error cause → cause.IsOfToken →
            parse source = .error cause) ∧
          ((∀ cause, parseTokens tokens = .error cause → ¬ cause.IsOfToken) →
            parse source = .error (.lexical fault)) ∧
          (∀ cause, parseTokens tokens = .error cause → ¬ cause.IsOfToken →
            ∃ report, cause = .grammar report ∧ report.diagnostic.found = none) ∧
          ∀ tree, parse source ≠ .ok tree := by
  refine ⟨parse_of_tokens, fun fault lexed => ?_⟩
  rcases parse_of_tokens_fault lexed with ⟨before, same⟩ | ⟨atEnd, comesFirst⟩
  · obtain ⟨cause, fails, isOfToken⟩ := isOfToken_of_ending before
    refine ⟨fun cause' fails' _ => same.trans fails', fun ofEnd => ?_, fun cause' fails' ofEnd => ?_,
      fun tree parses => ?_⟩
    · exact absurd isOfToken (ofEnd cause fails)
    · obtain rfl := Except.error.inj (fails.symm.trans fails')
      exact absurd isOfToken ofEnd
    · rw [same, fails] at parses
      simp at parses
  · refine ⟨fun cause fails isOfToken => ?_, fun _ => comesFirst,
      fun cause fails _ => not_isOfToken_of_ending atEnd fails, fun tree parses => ?_⟩
    · obtain ⟨report, rfl, notFound⟩ := not_isOfToken_of_ending atEnd fails
      exact absurd isOfToken (Fault.not_isOfToken notFound)
    · rw [comesFirst] at parses
      simp at parses

/-- A character that starts no token, behind a program and behind a token that is at fault. -/
theorem parse_on_demand_illegalCharacter :
    let name : Token := ⟨.identifier, "x", ⟨1, 1⟩⟩
    let closing : Token := ⟨.rightParen, ")", ⟨1, 2⟩⟩
    (Lexer.tokens "x" = ([name], none) ∧ parse "x" = parseTokens [name]) ∧
      (Lexer.tokens "x)#" = ([name, closing], some (.illegalCharacter '#' ⟨1, 3⟩)) ∧
        parse "x)#" = .error (.grammar (.trailing closing))) ∧
      Lexer.tokens "x#" = ([name], some (.illegalCharacter '#' ⟨1, 2⟩)) ∧
      parse "x#" = .error (.lexical (.illegalCharacter '#' ⟨1, 2⟩)) := by
  intro name closing
  have lexed : Lexer.tokens "x" = ([name], none) := by decide +kernel
  have lexedClosing : Lexer.tokens "x)#" = ([name, closing], some (.illegalCharacter '#' ⟨1, 3⟩)) := by
    decide +kernel
  have lexedIllegal : Lexer.tokens "x#" = ([name], some (.illegalCharacter '#' ⟨1, 2⟩)) := by
    decide +kernel
  have parses : parseTokens [name] = .ok (.var "x" ⟨1, 1⟩) := rfl
  have refuses : parseTokens [name, closing] = .error (.grammar (.trailing closing)) := rfl
  have accepted : ∀ cause, parseTokens [name] = .error cause → ¬ cause.IsOfToken := by
    intro cause fails
    rw [parses] at fails
    simp at fails
  exact ⟨⟨lexed, (parse_on_demand "x" _).1 lexed⟩,
    ⟨lexedClosing, ((parse_on_demand "x)#" _).2 _ lexedClosing).1 _ refuses ⟨closing, rfl⟩⟩,
    lexedIllegal, ((parse_on_demand "x#" _).2 _ lexedIllegal).2.1 accepted⟩

end JamLang
