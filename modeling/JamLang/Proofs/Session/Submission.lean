import JamLang.Proofs.Program.Layout
import JamLang.Proofs.Program.Outcome
import JamLang.Proofs.Session.Evaluation

/-!
# Programs that are typed

A program that is typed line by line is evaluated as one submission: while a parenthesis is open the
session collects lines, and with the last line the program is parsed and shown.  Several tests stand
before that, each with a view of its own on what was typed.  Their outcomes all follow from the
tokens of the program: the lines have these tokens too or none at all (`hasAtMost_of_trimmed`), so
their parentheses balance; and what would be taken for a comment or a command has other tokens,
which are no program.
-/

namespace JamLang.Session

open Grammar (depth)
open Lexer (HasAtMost)
open Text (AreBlank)

variable {frames : Frames} {session : Session} {choice : FormatChoice}
  {line text source printed answer : String} {lines more : List String}
  {inputs : List Input} {tokens : List Token} {tree : Node}

/-! ## Texts that are no programs -/

/-- The words of a program are the words of its tokens, so these are a program too. -/
theorem exists_of_hasAtMost (tokens : List Token) (parses : parse source = .ok tree)
    (hasAtMost : HasAtMost source.toList (tokens.map Token.word)) :
    ∃ other, parseTokens tokens = .ok other := by
  obtain ⟨own, lexed, parses⟩ := tokens_of_parse parses
  have alike := alike_of_map_word (hasAtMost.of_tokensFrom lexed)
  rw [parses] at alike
  generalize parseTokens tokens = outcome at alike ⊢
  cases alike with
  | tree => exact ⟨_, rfl⟩

theorem not_hasAtMost_nil (parses : parse source = .ok tree) : ¬ HasAtMost source.toList [] := by
  intro hasAtMost
  obtain ⟨other, parses⟩ := exists_of_hasAtMost [] parses hasAtMost
  have fails : parseTokens [] = .error (.grammar (.unexpected none .operand)) := rfl
  cases fails.symm.trans parses

theorem hasAtMost_of_comment {body : List Char} (isLine : '\n' ∉ body) :
    HasAtMost ('/' :: '/' :: body) [] :=
  .inl (Lexer.hasWords_of_isLastFilling (.lineComment .nil isLine))

/-- Two names in a row are no program. -/
theorem parseTokens_names (first second : Token) (isFirst : first.kind = .identifier)
    (isSecond : second.kind = .identifier) : ∀ tree, parseTokens [first, second] ≠ .ok tree := by
  obtain ⟨_, name, loc⟩ := first
  obtain ⟨_, name', loc'⟩ := second
  obtain rfl := isFirst
  obtain rfl := isSecond
  intro tree parses
  have fails : parseTokens [⟨.identifier, name, loc⟩, ⟨.identifier, name', loc'⟩] =
      .error (.grammar (.trailing ⟨.identifier, name', loc'⟩)) := rfl
  cases fails.symm.trans parses

/-! ## Tests that no program is caught by -/

theorem parenDepth_of_trimmed (parses : parse (trimmed source) = .ok tree) :
    parenDepth source = 0 := by
  obtain ⟨tokens, lexed, nested⟩ := nested_of_parse parses
  exact parenDepth_eq_zero tokens (hasAtMost_of_trimmed lexed) nested.closed

/-- The lines start with the first one, and a line feed stands behind it if there are more. -/
theorem toList_joinLines (line : String) (more : List String) :
    ∃ rest, (joinLines (line :: more)).toList = line.toList ++ rest ∧
      (more = [] ∧ rest = [] ∨ more ≠ [] ∧ ∃ tail, rest = '\n' :: tail) := by
  cases more with
  | nil => exact ⟨[], by simp [joinLines], .inl ⟨rfl, rfl⟩⟩
  | cons second more =>
    refine ⟨'\n' :: (joinLines (second :: more)).toList, by simp [joinLines], .inr ⟨?_, _, rfl⟩⟩
    exact List.cons_ne_nil second more

/-- A text that starts with a line comment starts so in its first line. -/
theorem hasAtMost_nil_of_comment {before body tail : List Char} (isLine : '\n' ∉ line.toList)
    (blank : AreBlank before)
    (split : line.toList ++ '\n' :: tail = before ++ '/' :: '/' :: body) :
    HasAtMost line.toList [] := by
  rcases List.append_eq_append_iff.1 split with ⟨left, rfl, -⟩ | ⟨left, isLeft, isBody⟩
  · exact Lexer.hasAtMost_of_areBlank (Text.areBlank_append.1 blank).1
  · rw [isLeft] at isLine ⊢
    -- The line does not end before the slashes do, as neither of them is the line feed.
    cases left with
    | nil => simp at isBody
    | cons c left =>
      obtain ⟨rfl, isRest⟩ := List.cons.inj isBody
      cases left with
      | nil => simp at isRest
      | cons d left =>
        obtain ⟨rfl, -⟩ := List.cons.inj isRest
        have notFeed : '\n' ∉ left := fun isPart => isLine (by simp [isPart])
        exact (hasAtMost_of_comment notFeed).blanks blank

/-- No program is ignored.  If it starts with a comment, then there is more than that in its first
line, or a parenthesis is open behind it. -/
theorem isIgnored_eq_false (isLine : '\n' ∉ line.toList)
    (parses : parse (trimmed (joinLines (line :: more))) = .ok tree)
    (isOpen : more ≠ [] → 0 < parenDepth line) :
    isIgnored (trimmed (joinLines (line :: more))) = false := by
  rw [Bool.eq_false_iff]
  intro isIgnored
  obtain ⟨rest, isJoined, ends⟩ := toList_joinLines line more
  obtain ⟨before, after, split, blank, -⟩ := exists_trimmed (joinLines (line :: more))
  generalize trimmed (joinLines (line :: more)) = text at *
  rw [Session.isIgnored, Bool.or_eq_true, String.isEmpty_iff, List.isPrefixOf_iff_prefix]
    at isIgnored
  cases isIgnored with
  | inl isEmpty =>
    subst isEmpty
    exact not_hasAtMost_nil parses (.inl Lexer.hasWords_nil)
  | inr isComment =>
    obtain ⟨body, isText⟩ := isComment
    rw [isJoined, ← isText] at split
    rcases ends with ⟨-, rfl⟩ | ⟨notEmpty, tail, rfl⟩
    · rw [List.append_nil] at split
      have notFeed : '\n' ∉ body := fun isPart => isLine (by simp [split, isPart])
      apply not_hasAtMost_nil parses
      rw [← isText]
      exact hasAtMost_of_comment notFeed
    · -- Behind the first line of a comment, no parenthesis would be open.
      have noWords := hasAtMost_nil_of_comment isLine blank split
      have isZero := parenDepth_eq_zero [] noWords rfl
      have isOpen := isOpen notEmpty
      omega

theorem hasAtMost_of_setting {name : String} (isName : (Format.ofName? name).isSome = true)
    (areWords : Text.words text.toList = ["format".toList, name.toList]) :
    HasAtMost text.toList [(.identifier, "format"), (.identifier, name)] := by
  have areNames : ∀ name ∈ "format" :: Format.all.map Format.name,
      Lexer.isWord name.toList = true ∧ Vocabulary.wordKind name = .identifier := by
    decide +kernel
  have isListed : name ∈ Format.all.map Format.name := by
    obtain ⟨format, found⟩ := Option.isSome_iff_exists.1 isName
    have same := List.find?_some found
    exact List.mem_map.2 ⟨format, List.mem_of_find?_eq_some found, by simpa using same⟩
  obtain ⟨isWord, isKind⟩ := areNames "format" List.mem_cons_self
  obtain ⟨isWord', isKind'⟩ := areNames name (List.mem_cons_of_mem _ isListed)
  obtain ⟨before, rest, isText, blank, -, starts, areWords⟩ := Text.exists_of_words_cons areWords
  obtain ⟨middle, after, rfl, blank', -, -, noWords⟩ := Text.exists_of_words_cons areWords
  have second := (Lexer.spells_word isWord').hasWords.pad blank' (Text.areBlank_of_words noWords)
  have both := (second.word isWord starts).blanks blank
  rwa [← isText, isKind, isKind'] at both

theorem toLists_of_map_ofList {words : List (List Char)} {names : List String}
    (same : words.map String.ofList = names) : words = names.map String.toList := by
  rw [← same, List.map_map]
  simp [Function.comp_def]

/-- No program is a command, except for the one word that is both. -/
theorem formatCommand?_eq_none (choice : FormatChoice) (parses : parse text = .ok tree)
    (isTrimmed : trimmed text = text) (notCommand : text ≠ "format") :
    formatCommand? text choice = none := by
  unfold formatCommand?
  split
  · next areWords =>
    have trims : Text.trim text.toList = text.toList := by
      rw [← toList_trimmed, isTrimmed]
    have isWord := Text.eq_of_words_singleton trims (toLists_of_map_ofList areWords)
    exact absurd (String.toList_inj.1 isWord) notCommand
  · next name areWords =>
    split
    · next isName =>
      let names : List Token := [⟨.identifier, "format", .unknown⟩, ⟨.identifier, name, .unknown⟩]
      have hasAtMost := hasAtMost_of_setting isName (toLists_of_map_ofList areWords)
      obtain ⟨other, parses⟩ := exists_of_hasAtMost names parses hasAtMost
      exact absurd parses (parseTokens_names _ _ rfl rfl other)
    · rfl
  · rfl

/-! ## Submissions -/

theorem submit_of_parse (parses : parse text = .ok tree) (notIgnored : isIgnored text = false)
    (notCommand : formatCommand? text choice = none) :
    ∃ answer, submit frames text choice = (choice, answer) ∧
      ∀ shown, formatChosen choice tree = .ok shown → answer = shown ++ "\n" := by
  refine ⟨_, submit_of_not_isIgnored notIgnored notCommand, fun text isText => ?_⟩
  simp only [Session.shown, evaluate, parses, isText]

/-! ## Lines that are typed -/

/-- The rest of a session behind the steps that came before. -/
def Transcript.behind (rest : Transcript) (steps : List (String × String)) : Transcript :=
  { rest with steps := steps ++ rest.steps }

theorem transcriptFrom_line {next : Session}
    (answers : session.answer frames line = (answer, some next)) :
    transcriptFrom frames session printed (.line line :: inputs) =
      (transcriptFrom frames next answer inputs).behind [(printed, session.prompt)] := by
  rw [transcriptFrom, answers]
  rfl

theorem Transcript.behind_behind (rest : Transcript) (first second : List (String × String)) :
    (rest.behind second).behind first = rest.behind (first ++ second) := by
  simp [behind]

/-- While a parenthesis is open, lines are asked for, and then all of them are submitted. -/
theorem transcriptFrom_lines (session : Session)
    (notFarewell : trimmed (joinLines (session.pending ++ line :: more)) ∉ ["exit", "quit"])
    (isOpen : ∀ count < more.length,
      0 < parenDepth (joinLines (session.pending ++ line :: more.take count)))
    (isComplete : parenDepth (joinLines (session.pending ++ line :: more)) ≤ 0)
    (submits : submit frames (trimmed (joinLines (session.pending ++ line :: more)))
      session.format = (choice, answer)) (printed : String) (inputs : List Input) :
    transcriptFrom frames session printed ((line :: more).map .line ++ inputs) =
      (transcriptFrom frames { format := choice } answer inputs).behind
        ((printed, session.prompt) :: List.replicate more.length ("", "... ")) := by
  induction more generalizing session line printed with
  | nil =>
    have goesOn : ¬ (session.pending = [] ∧ trimmed line ∈ ["exit", "quit"]) := by
      rintro ⟨isEmpty, isFarewell⟩
      rw [isEmpty, List.nil_append, joinLines_singleton] at notFarewell
      exact notFarewell isFarewell
    have turns : session.turn line = .submit (trimmed (joinLines (session.pending ++ [line]))) := by
      rw [turn_eq, if_neg goesOn, if_neg (Int.not_lt.2 isComplete)]
    have answers : session.answer frames line = (answer, some { format := choice }) := by
      rw [Session.answer, turns]
      simp only [submits]
    exact transcriptFrom_line answers
  | cons second more ih =>
    -- The session that collects this line stands before the next one as this one stands before it.
    let next : Session := { session with pending := session.pending ++ [line] }
    have answers : session.answer frames line = ("", some next) :=
      answer_of_open (isOpen 0 (Nat.succ_pos _))
    have typed (rest : List String) : next.pending ++ rest = session.pending ++ line :: rest :=
      List.append_assoc _ _ _
    have asks : next.prompt = "... " := prompt_of_pending (by simp [next])
    have rest := ih next (by rw [typed]; exact notFarewell)
      (fun count isLess => by rw [typed]; exact isOpen (count + 1) (Nat.succ_lt_succ isLess))
      (by rw [typed]; exact isComplete) (by rw [typed]; exact submits) ""
    rw [List.map_cons, List.cons_append, transcriptFrom_line answers, rest,
      Transcript.behind_behind, asks]
    rfl

/-! ## Programs -/

/-- A program that is typed at the first prompt is evaluated as one submission.  A prompt for more
lines is shown for each line but the first; the program is printed in the format of the session,
which is kept; and the session goes on at the first prompt. -/
theorem transcriptFrom_program (frames : Frames) (format : Format) (lines : List String)
    (tree : Node) (notEmpty : lines ≠ []) (areLines : ∀ line ∈ lines, '\n' ∉ line.toList)
    (parses : parse (trimmed (joinLines lines)) = .ok tree)
    (notCommand : trimmed (joinLines lines) ∉ ["exit", "quit", "format"])
    (isOpen : ∀ count, 0 < count → count < lines.length →
      0 < parenDepth (joinLines (lines.take count))) (printed : String) (inputs : List Input) :
    ∃ answer,
      transcriptFrom frames { format := format.choice } printed (lines.map .line ++ inputs) =
          (transcriptFrom frames { format := format.choice } answer inputs).behind
            ((printed, ">>> ") :: List.replicate (lines.length - 1) ("", "... ")) ∧
        (∀ text, formatChosen format.choice tree = .ok text → answer = text ++ "\n") ∧
        ((format = .json → Text.IsWritable (trimmed (joinLines lines)).length) →
          ∃ text, formatChosen format.choice tree = .ok text) := by
  obtain ⟨line, more, rfl⟩ := List.exists_cons_of_ne_nil notEmpty
  have isFirstOpen : more ≠ [] → 0 < parenDepth line := by
    intro goesOn
    have opened := isOpen 1 (by decide) (Nat.succ_lt_succ (List.length_pos_iff.2 goesOn))
    rwa [List.take_succ_cons, List.take_zero, joinLines_singleton] at opened
  have notFarewell : trimmed (joinLines (line :: more)) ∉ ["exit", "quit"] := by
    intro isFarewell
    exact notCommand (List.mem_append_left ["format"] isFarewell)
  have notFormat : trimmed (joinLines (line :: more)) ≠ "format" := by
    intro isFormat
    exact notCommand (by simp [isFormat])
  have notIgnored := isIgnored_eq_false (areLines line List.mem_cons_self) parses isFirstOpen
  have noSetting := formatCommand?_eq_none format.choice parses (trimmed_trimmed _) notFormat
  obtain ⟨answer, submits, isAnswer⟩ := submit_of_parse parses notIgnored noSetting
  refine ⟨answer, ?_, isAnswer, fun fits => exists_formatChosen parses format fits⟩
  have isComplete := Int.le_of_eq (parenDepth_of_trimmed parses)
  apply transcriptFrom_lines { format := format.choice } notFarewell _ isComplete submits printed
    inputs
  intro count isLess
  exact isOpen (count + 1) (Nat.succ_pos count) (Nat.succ_lt_succ isLess)

/-- A variable that is named like a command, in two lines. -/
theorem transcriptFrom_program_format :
    let frames : Frames := fun _ _ => "  ...\n"
    let lines := ["( // exit", "format)"]
    (∀ line ∈ lines, '\n' ∉ line.toList) ∧
      parse (trimmed (joinLines lines)) = .ok (.var "format" ⟨2, 1⟩) ∧
      trimmed (joinLines lines) ∉ ["exit", "quit", "format"] ∧
      (∀ count, 0 < count → count < lines.length →
        0 < parenDepth (joinLines (lines.take count))) ∧
      transcriptFrom frames { format := Format.source.choice } "" (lines.map .line ++ []) =
        (transcriptFrom frames { format := Format.source.choice } "format\n" []).behind
          [("", ">>> "), ("", "... ")] := by
  intro frames lines
  have areLines : ∀ line ∈ lines, '\n' ∉ line.toList := by decide
  have lexed : Lexer.tokens (trimmed (joinLines lines)) =
      ([⟨.leftParen, "(", ⟨1, 1⟩⟩, ⟨.identifier, "format", ⟨2, 1⟩⟩,
        ⟨.rightParen, ")", ⟨2, 7⟩⟩], none) := by decide +kernel
  have parses : parse (trimmed (joinLines lines)) = .ok (.var "format" ⟨2, 1⟩) :=
    (parse_of_tokens lexed).trans rfl
  have notCommand : trimmed (joinLines lines) ∉ ["exit", "quit", "format"] := by decide +kernel
  have isOpen : ∀ count, 0 < count → count < lines.length →
      0 < parenDepth (joinLines (lines.take count)) := by
    intro count isPositive isLess
    obtain rfl : count = 1 := Nat.le_antisymm (Nat.le_of_lt_succ isLess) isPositive
    decide +kernel
  obtain ⟨answer, isTranscript, isAnswer, -⟩ := transcriptFrom_program frames .source lines _
    (List.cons_ne_nil _ _) areLines parses notCommand isOpen "" []
  have isShown : formatChosen Format.source.choice (.var "format" ⟨2, 1⟩) = .ok "format" := by
    decide +kernel
  rw [isAnswer _ isShown] at isTranscript
  exact ⟨areLines, parses, notCommand, isOpen, isTranscript⟩

end JamLang.Session
