import JamLang.Proofs.Lexer.Lines
import JamLang.Proofs.Program.Parentheses

/-!
# Texts put together line by line

Putting a line feed between two texts puts their tokens together: those of the second text are the
same as ever, only further down, and so is the fault of the second text, if it has one.  So open
parentheses can be counted line by line.  A character of the first text that starts no token is
found whatever the second text is.
-/

namespace JamLang

open Grammar

variable {first second : String} {tokens : List Token}

theorem depth_down (tokens : List Token) (lines : Nat) :
    depth (tokens.map (·.down lines)) = depth tokens := by
  apply depth_of_map_word
  rw [List.map_map]
  rfl

theorem parenDepth_append_line {more : List Token} (lexed : Lexer.tokens first = (tokens, none))
    (lexed' : Lexer.tokens second = (more, none)) :
    parenDepth (first ++ "\n" ++ second) = parenDepth first + parenDepth second := by
  have goesOn := Lexer.tokens_append_line lexed second
  rw [lexed'] at goesOn
  rw [parenDepth_of_tokens goesOn, parenDepth_of_tokens lexed, parenDepth_of_tokens lexed',
    depth_append, depth_down]

/-- Lexing two texts with a line feed between them comes to the tokens of the first and then to what
the second comes to, as many lines further down as the first text has; and parentheses are counted
in each of them apart.  An illegal character of the first text is found in any case. -/
theorem tokenize_append_line (first second : String) :
    (∀ tokens, Lexer.tokenize first = .ok tokens →
        (∀ more, Lexer.tokenize second = .ok more →
          Lexer.tokenize (first ++ "\n" ++ second) =
              .ok (tokens ++ more.map (·.down (1 + first.toList.count '\n'))) ∧
            parenDepth (first ++ "\n" ++ second) = parenDepth first + parenDepth second) ∧
        ∀ fault, Lexer.tokenize second = .error fault →
          Lexer.tokenize (first ++ "\n" ++ second) =
            .error (fault.down (1 + first.toList.count '\n'))) ∧
      ∀ c loc, Lexer.tokenize first = .error (.illegalCharacter c loc) →
        Lexer.tokenize (first ++ "\n" ++ second) = .error (.illegalCharacter c loc) := by
  constructor
  · intro tokens isFirst
    have lexed := Lexer.tokenize_eq_ok_iff.1 isFirst
    have goesOn := Lexer.tokens_append_line lexed second
    constructor
    · intro more isSecond
      have lexed' := Lexer.tokenize_eq_ok_iff.1 isSecond
      refine ⟨Lexer.tokenize_eq_ok_iff.2 ?_, parenDepth_append_line lexed lexed'⟩
      rw [goesOn, lexed']
      rfl
    · intro fault fails
      rw [Lexer.tokenize_eq_error_iff, goesOn, Lexer.tokenize_eq_error_iff.1 fails]
      rfl
  · intro c loc fails
    have isIllegal := Lexer.tokenize_eq_error_iff.1 fails
    rw [Lexer.tokenize_eq_error_iff, Lexer.tokens_append_line_illegal isIllegal, isIllegal]

/-- A line comment ends with its line, a later line may have a fault of its own, and a colon is not
made up for by an equals sign in the next line. -/
theorem tokenize_append_line_comment :
    let opening : Token := ⟨.leftParen, "(", ⟨1, 1⟩⟩
    let name : Token := ⟨.identifier, "x", ⟨1, 1⟩⟩
    (Lexer.tokenize "( // )" = .ok [opening] ∧ Lexer.tokenize "x" = .ok [name] ∧
        Lexer.tokenize ("( // )" ++ "\n" ++ "x") = .ok [opening, name.down 1] ∧
        parenDepth ("( // )" ++ "\n" ++ "x") = parenDepth "( // )" + parenDepth "x") ∧
      (Lexer.tokenize "\n/*" = .error (.unterminatedComment ⟨2, 1⟩) ∧
        Lexer.tokenize ("( // )" ++ "\n" ++ "\n/*") = .error (.unterminatedComment ⟨3, 1⟩)) ∧
      Lexer.tokenize "x :" = .error (.illegalCharacter ':' ⟨1, 3⟩) ∧
      Lexer.tokenize ("x :" ++ "\n" ++ "= 1;") = .error (.illegalCharacter ':' ⟨1, 3⟩) := by
  intro opening name
  have isFirst : Lexer.tokenize "( // )" = .ok [opening] := by decide +kernel
  have isSecond : Lexer.tokenize "x" = .ok [name] := by decide +kernel
  have fails : Lexer.tokenize "\n/*" = .error (.unterminatedComment ⟨2, 1⟩) := by decide +kernel
  have isIllegal : Lexer.tokenize "x :" = .error (.illegalCharacter ':' ⟨1, 3⟩) := by
    decide +kernel
  obtain ⟨goesOn, depths⟩ := ((tokenize_append_line _ "x").1 _ isFirst).1 _ isSecond
  exact ⟨⟨isFirst, isSecond, goesOn, depths⟩,
    ⟨fails, ((tokenize_append_line _ _).1 _ isFirst).2 _ fails⟩, isIllegal,
    (tokenize_append_line _ _).2 _ _ isIllegal⟩

end JamLang
