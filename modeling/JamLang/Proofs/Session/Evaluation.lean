import JamLang.Proofs.Program.Parentheses

/-!
# What a session evaluates

Whether lines are submitted is decided by the parentheses of these lines as they were typed: while
one is open, the session collects lines and does nothing else (`answer_of_open`).  What is submitted
then is the trimmed text of the lines.  Both have the same tokens, and so the same
parentheses, unless a stray blank was trimmed off: a text with such a blank has no tokens, and
counts as balanced, whatever parentheses there are behind it.  So what is evaluated has no open
parenthesis, with this one exception (`evaluated_balanced`), which does occur
(`evaluated_opening`).
-/

namespace JamLang.Session

open Grammar (depth)
open Lexer (IsStray HasAtMost)
open Text (AreBlank)

variable {frames : Frames} {session : Session} {format : FormatChoice} {line text source : String}
  {lines : List String} {tokens : List Token}

/-! ## Turns -/

theorem turn_eq (session : Session) (line : String) :
    session.turn line =
      if session.pending = [] ∧ trimmed line ∈ ["exit", "quit"] then .close
      else if 0 < parenDepth (joinLines (session.pending ++ [line])) then
        .collect (session.pending ++ [line])
      else .submit (trimmed (joinLines (session.pending ++ [line]))) := by
  simp only [turn, List.isEmpty_iff]

theorem of_turn_eq_close (closes : session.turn line = .close) :
    session.pending = [] ∧ trimmed line ∈ ["exit", "quit"] := by
  rw [turn_eq] at closes
  split at closes
  · next ends => exact ends
  · split at closes
    · cases closes
    · cases closes

theorem of_turn_eq_collect (collects : session.turn line = .collect lines) :
    lines = session.pending ++ [line] ∧ 0 < parenDepth (joinLines lines) := by
  rw [turn_eq] at collects
  split at collects
  · cases collects
  · split at collects
    · next isOpen =>
      obtain rfl := Turn.collect.inj collects
      exact ⟨rfl, isOpen⟩
    · cases collects

theorem of_turn_eq_submit (submits : session.turn line = .submit text) :
    text = trimmed (joinLines (session.pending ++ [line])) ∧
      parenDepth (joinLines (session.pending ++ [line])) ≤ 0 := by
  rw [turn_eq] at submits
  split at submits
  · cases submits
  · split at submits
    · cases submits
    · next notOpen =>
      obtain rfl := Turn.submit.inj submits
      exact ⟨rfl, Int.not_lt.1 notOpen⟩

/-! ## Trimmed texts -/

theorem toList_trimmed (source : String) : (trimmed source).toList = Text.trim source.toList := by
  rw [trimmed, String.toList_ofList]

theorem trimmed_trimmed (source : String) : trimmed (trimmed source) = trimmed source := by
  rw [trimmed, toList_trimmed, Text.trim_trim]
  rfl

theorem exists_trimmed (source : String) :
    ∃ before after, source.toList = before ++ ((trimmed source).toList ++ after) ∧
      AreBlank before ∧ AreBlank after := by
  rw [toList_trimmed]
  exact Text.exists_trim source.toList

/-- A text has the words of its trimmed text, or a stray blank was trimmed off. -/
theorem hasAtMost_of_trimmed (lexed : Lexer.tokens (trimmed source) = (tokens, none)) :
    HasAtMost source.toList (tokens.map Token.word) := by
  obtain ⟨before, after, split, blankBefore, blankAfter⟩ := exists_trimmed source
  rw [split]
  exact (Lexer.hasWords_of_tokensFrom lexed).pad blankBefore blankAfter

theorem parenDepth_of_hasAtMost (hasAtMost : HasAtMost source.toList (tokens.map Token.word)) :
    parenDepth source = depth tokens ∨
      ∃ c stop, IsStray c ∧ Lexer.tokenize source = .error (.illegalCharacter c stop) := by
  cases hasAtMost with
  | inl hasWords =>
    obtain ⟨tokens', sameWords, lexed⟩ := hasWords .start
    rw [parenDepth_of_tokens lexed]
    exact .inl (depth_of_map_word sameWords)
  | inr hasStray =>
    obtain ⟨c, stop, stray, fails⟩ := hasStray .start
    exact .inr ⟨c, stop, stray, Lexer.tokenize_eq_error_iff.2 fails⟩

theorem parenDepth_eq_zero (tokens : List Token)
    (hasAtMost : HasAtMost source.toList (tokens.map Token.word)) (isZero : depth tokens = 0) :
    parenDepth source = 0 := by
  cases parenDepth_of_hasAtMost hasAtMost with
  | inl same => exact same.trans isZero
  | inr strayed =>
    obtain ⟨c, stop, -, fails⟩ := strayed
    exact parenDepth_of_fault (Lexer.tokenize_eq_error_iff.1 fails)

/-- Trimming off blanks opens no parentheses, unless one of the blanks is stray. -/
theorem parenDepth_trimmed_le (notOpen : parenDepth source ≤ 0) :
    parenDepth (trimmed source) ≤ 0 ∨
      ∃ c stop, IsStray c ∧ Lexer.tokenize source = .error (.illegalCharacter c stop) := by
  by_cases balanced : parenDepth (trimmed source) = 0
  · exact .inl (Int.le_of_eq balanced)
  · obtain ⟨tokens, lexed, isDepth⟩ := exists_tokens_of_parenDepth balanced
    cases parenDepth_of_hasAtMost (hasAtMost_of_trimmed lexed) with
    | inl same => exact .inl (by omega)
    | inr strayed => exact .inr strayed

/-! ## Open parentheses -/

theorem parenDepth_of_farewell (isFarewell : trimmed line ∈ ["exit", "quit"]) :
    parenDepth line = 0 := by
  have lexes : ∀ word ∈ ["exit", "quit"], Lexer.tokens word =
      ([⟨.identifier, word, ⟨1, 1⟩⟩], none) := by decide +kernel
  exact parenDepth_eq_zero _ (hasAtMost_of_trimmed (lexes _ isFarewell)) rfl

theorem joinLines_singleton (line : String) : joinLines [line] = line := by
  simp [joinLines]

theorem prompt_of_pending (notEmpty : session.pending ≠ []) : session.prompt = "... " := by
  simp [prompt, notEmpty]

/-- While a parenthesis is open, nothing is done but that the line is collected. -/
theorem answer_of_open (isOpen : 0 < parenDepth (joinLines (session.pending ++ [line]))) :
    session.answer frames line =
      ("", some { session with pending := session.pending ++ [line] }) := by
  have goesOn : ¬ (session.pending = [] ∧ trimmed line ∈ ["exit", "quit"]) := by
    rintro ⟨isEmpty, isFarewell⟩
    rw [isEmpty, List.nil_append, joinLines_singleton, parenDepth_of_farewell isFarewell] at isOpen
    cases isOpen
  rw [answer, turn_eq, if_neg goesOn, if_pos isOpen]

/-! ## Evaluated texts -/

/-- The text that is evaluated when a line is typed: a submitted one that is neither ignored nor a
command. -/
def evaluated? (session : Session) (line : String) : Option String :=
  match session.turn line with
  | .submit text =>
    if isIgnored text ∨ (formatCommand? text session.format).isSome then none else some text
  | .close | .collect _ => none

/-- The texts that are evaluated in a session. -/
def evaluated (frames : Frames) (session : Session) : List Input → List String
  | .line line :: inputs =>
    match (session.answer frames line).2 with
    | some next => (session.evaluated? line).toList ++ next.evaluated frames inputs
    | none => []
  | .interrupt :: _ => []
  | [] => []

/-- What is printed for a program. -/
def shown (frames : Frames) (text : String) (format : FormatChoice) : String :=
  match evaluate text format with
  | .ok printed => printed
  | .error fault => trace (frames text format) fault

theorem submit_of_not_isIgnored (notIgnored : isIgnored text = false)
    (notCommand : formatCommand? text format = none) :
    submit frames text format = (format, shown frames text format) := by
  rw [submit, notIgnored, notCommand, shown]
  cases evaluate text format <;> rfl

theorem of_evaluated?_eq_some (isEvaluated : session.evaluated? line = some text) :
    session.turn line = .submit text ∧ isIgnored text = false ∧
      formatCommand? text session.format = none := by
  unfold evaluated? at isEvaluated
  split at isEvaluated
  · next submits =>
    split at isEvaluated
    · cases isEvaluated
    · next others =>
      obtain rfl := Option.some.inj isEvaluated
      simpa [submits] using others
  · cases isEvaluated
  · cases isEvaluated

/-- An evaluated text is answered by what it comes to, and nothing else is done. -/
theorem answer_of_evaluated? (isEvaluated : session.evaluated? line = some text) :
    session.answer frames line =
      (shown frames text session.format, some { format := session.format }) := by
  obtain ⟨submits, notIgnored, notCommand⟩ := of_evaluated?_eq_some isEvaluated
  rw [answer, submits]
  simp only [submit_of_not_isIgnored notIgnored notCommand]

/-! ## Whole sessions -/

/-- Whatever is evaluated was typed in a row, behind the lines that are pending. -/
theorem exists_lines_of_evaluated {inputs : List Input}
    (isEvaluated : text ∈ session.evaluated frames inputs) :
    ∃ lines, lines.map Input.line <:+: session.pending.map .line ++ inputs ∧
      text = trimmed (joinLines lines) ∧ parenDepth (joinLines lines) ≤ 0 := by
  induction inputs generalizing session with
  | nil => cases isEvaluated
  | cons input inputs ih =>
    cases input with
    | interrupt => cases isEvaluated
    | line line =>
      have typed : (session.pending ++ [line]).map Input.line ++ inputs =
          session.pending.map .line ++ .line line :: inputs := by simp
      cases turns : session.turn line with
      | close =>
        rw [evaluated, answer, turns] at isEvaluated
        cases isEvaluated
      | collect lines =>
        obtain ⟨rfl, -⟩ := of_turn_eq_collect turns
        rw [evaluated, evaluated?, answer, turns] at isEvaluated
        rw [← typed]
        exact ih isEvaluated
      | submit text' =>
        rw [evaluated, answer, turns, List.mem_append, Option.mem_toList] at isEvaluated
        cases isEvaluated with
        | inl isNow =>
          obtain ⟨submits, -, -⟩ := of_evaluated?_eq_some isNow
          obtain ⟨isText, notOpen⟩ := of_turn_eq_submit submits
          rw [← typed]
          exact ⟨_, (List.prefix_append _ inputs).isInfix, isText, notOpen⟩
        | inr isLater =>
          obtain ⟨lines, areTyped, isText, notOpen⟩ := ih isLater
          have later : inputs <:+: session.pending.map .line ++ .line line :: inputs := by
            rw [← typed]
            exact (List.suffix_append _ inputs).isInfix
          exact ⟨lines, areTyped.trans later, isText, notOpen⟩

/-- While the lines typed so far have an open parenthesis, the session asks for another line and
evaluates nothing.  So what is evaluated has no open parenthesis, unless the lines that it was typed
in have no tokens because of a stray blank. -/
theorem evaluated_balanced (frames : Frames) (format : FormatChoice) (inputs : List Input) :
    (∀ (session : Session) (line : String),
      0 < parenDepth (joinLines (session.pending ++ [line])) →
        ∃ next, session.answer frames line = ("", some next) ∧ next.prompt = "... " ∧
          next.format = session.format ∧ next.pending = session.pending ++ [line] ∧
          session.evaluated? line = none) ∧
      ∀ text ∈ evaluated frames { format } inputs,
        ∃ lines, lines.map Input.line <:+: inputs ∧ text = trimmed (joinLines lines) ∧
          (parenDepth text ≤ 0 ∨ ∃ c stop, IsStray c ∧
            Lexer.tokenize (joinLines lines) = .error (.illegalCharacter c stop)) := by
  constructor
  · intro session line isOpen
    have notEmpty : session.pending ++ [line] ≠ [] := by simp
    refine ⟨_, answer_of_open isOpen, prompt_of_pending notEmpty, rfl, rfl, ?_⟩
    rw [Option.eq_none_iff_forall_ne_some]
    intro text isEvaluated
    obtain ⟨submits, -, -⟩ := of_evaluated?_eq_some isEvaluated
    have notOpen := (of_turn_eq_submit submits).2
    omega
  · intro text isEvaluated
    obtain ⟨lines, areTyped, rfl, notOpen⟩ := exists_lines_of_evaluated isEvaluated
    exact ⟨lines, areTyped, rfl, parenDepth_trimmed_le notOpen⟩

/-- A variable in parentheses, typed in two lines, with a stray blank in a comment. -/
theorem evaluated_balanced_lines :
    let frames : Frames := fun _ _ => "  ...\n"
    let inputs := [.line "( // \x1c", .line "x) "]
    0 < parenDepth "( // \x1c" ∧
      (∃ next, ({ format := Format.source.choice } : Session).answer frames "( // \x1c" =
          ("", some next) ∧
        next.prompt = "... ") ∧
      "( // \x1c\nx)" ∈ evaluated frames { format := Format.source.choice } inputs ∧
      ∃ lines, lines.map Input.line <:+: inputs ∧ "( // \x1c\nx)" = trimmed (joinLines lines) ∧
        (parenDepth "( // \x1c\nx)" ≤ 0 ∨ ∃ c stop, IsStray c ∧
          Lexer.tokenize (joinLines lines) = .error (.illegalCharacter c stop)) := by
  intro frames inputs
  have isOpen : 0 < parenDepth "( // \x1c" := by decide +kernel
  have isEvaluated :
      "( // \x1c\nx)" ∈ evaluated frames { format := Format.source.choice } inputs := by
    decide +kernel
  obtain ⟨collects, balanced⟩ := evaluated_balanced frames Format.source.choice inputs
  obtain ⟨next, answers, asks, -⟩ :=
    collects { format := Format.source.choice } "( // \x1c" isOpen
  exact ⟨isOpen, ⟨next, answers, asks⟩, isEvaluated, balanced _ isEvaluated⟩

/-- An information separator in front of a parenthesis hides that it is open, and is trimmed off
before the parenthesis is evaluated. -/
theorem evaluated_opening :
    0 < parenDepth "(" ∧
      ∀ frames, "(" ∈ evaluated frames { format := Format.source.choice } [.line "\x1c("] := by
  refine ⟨by decide +kernel, fun frames => ?_⟩
  have isEvaluated :
      evaluated? { format := Format.source.choice } "\x1c(" = some "(" := by decide +kernel
  rw [evaluated, answer_of_evaluated? isEvaluated, isEvaluated]
  exact List.mem_append_left _ (List.mem_singleton_self "(")

end JamLang.Session
