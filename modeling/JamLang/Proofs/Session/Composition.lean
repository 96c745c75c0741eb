import JamLang.Proofs.Session.Submission

/-!
# Sessions behind sessions

A session is over when its input ends, at an interrupt, or when a farewell is typed at the first
prompt, and nothing else ends it: a line that is evaluated and fails is answered like any other, by
a report or by a trace.  Between two submissions a session is nothing but its output format.  So a
session goes on from there like a fresh one in that format (`exists_transcriptFrom_append`), and
only a command that names a format changes it.
-/

namespace JamLang.Session

variable {frames : Frames} {session last : Session} {choice : FormatChoice}
  {line text source printed : String} {input : Input} {inputs first : List Input} {tree : Node}

/-! ## Evaluations that fail -/

/-- Why evaluating a text may fail, other than by a report on it: an integer is too long to be read
or to be written, or what is asked for is no format. -/
inductive IsTraced (choice : FormatChoice) : EvalFault → Prop where
  | overlong (count : Nat) : IsTraced choice (.parse (.numeral (.tooManyDigits count)))
  | unknownFormat (unknown : Format.ofChoice? choice = none) :
      IsTraced choice (.format (.unknownFormat choice))
  | unwritable (fault : Text.NumeralFault) : IsTraced choice (.format (.print (.numeral fault)))

theorem isTraced_of_formatChosen {fault : FormatFault} (parses : parse source = .ok tree)
    (fails : formatChosen choice tree = .error fault) : IsTraced choice (.format fault) := by
  rcases exists_of_formatChosen_error parses fails with ⟨unknown, rfl⟩ | ⟨cause, rfl⟩
  · exact .unknownFormat unknown
  · exact .unwritable cause

/-- What is printed for a text that is evaluated. -/
inductive Shows (frames : Frames) (text : String) (choice : FormatChoice) :
    (printed : String) → Prop where
  | tree {tree : Node} {shown : String} (parses : parse text = .ok tree)
      (isShown : formatChosen choice tree = .ok shown) : Shows frames text choice (shown ++ "\n")
  | report {fault : Fault} {diagnostic : Diagnostic} (fails : parse text = .error fault)
      (reports : fault.diagnostic? = some diagnostic) :
      Shows frames text choice ("[error] >>> " ++ diagnostic.message ++ "\n")
  | trace {fault : EvalFault} (fails : evaluate text choice = .error fault)
      (isTraced : IsTraced choice fault) :
      Shows frames text choice (Session.trace (frames text choice) fault)

theorem shows_shown (frames : Frames) (text : String) (choice : FormatChoice) :
    Shows frames text choice (shown frames text choice) := by
  have outcome := outcome_parse text
  generalize parses : parse text = result at outcome
  cases outcome with
  | parsed tree =>
    cases isShown : formatChosen choice tree with
    | ok shown =>
      have evaluates : evaluate text choice = .ok (shown ++ "\n") := by
        simp only [evaluate, parses, isShown]
      rw [Session.shown, evaluates]
      exact .tree parses isShown
    | error fault =>
      have fails : evaluate text choice = .error (.format fault) := by
        simp only [evaluate, parses, isShown]
      rw [Session.shown, fails]
      exact .trace fails (isTraced_of_formatChosen parses isShown)
  | lexical fault | grammar fault =>
    simp only [Session.shown, evaluate, parses]
    exact .report parses rfl
  | overlong count =>
    have fails : evaluate text choice = .error (.parse (.numeral (.tooManyDigits count))) := by
      simp only [evaluate, parses, Fault.diagnostic?]
    rw [Session.shown, fails]
    exact .trace fails (.overlong count)

/-! ## Answers -/

/-- How a submitted text is answered: the format from now on, and what is printed. -/
inductive Submitted (frames : Frames) (text : String) (choice : FormatChoice) :
    (next : FormatChoice) → (printed : String) → Prop where
  | ignored (isIgnored : isIgnored text = true) : Submitted frames text choice choice ""
  | formatAsked (areWords : Text.words text.toList = ["format".toList]) :
      Submitted frames text choice choice ("[mode] >>> Output format: " ++ choice.text ++ "\n")
  | formatSet {name : String} (isName : (Format.ofName? name).isSome = true)
      (areWords : Text.words text.toList = ["format".toList, name.toList]) :
      Submitted frames text choice (.named name)
        ("[mode] >>> Output format set to " ++ name ++ "\n")
  | evaluated {printed : String} (shows' : Shows frames text choice printed) :
      Submitted frames text choice choice printed

theorem submitted_of_formatCommand? {next : FormatChoice}
    (isCommand : formatCommand? text choice = some (next, printed)) :
    Submitted frames text choice next printed := by
  unfold formatCommand? at isCommand
  split at isCommand
  · next areWords =>
    obtain ⟨rfl, rfl⟩ := Prod.mk.inj (Option.some.inj isCommand)
    exact .formatAsked (toLists_of_map_ofList areWords)
  · next name areWords =>
    split at isCommand
    · next isName =>
      obtain ⟨rfl, rfl⟩ := Prod.mk.inj (Option.some.inj isCommand)
      exact .formatSet isName (toLists_of_map_ofList areWords)
    · cases isCommand
  · cases isCommand

theorem submitted_submit (frames : Frames) (text : String) (choice : FormatChoice) :
    Submitted frames text choice (submit frames text choice).1 (submit frames text choice).2 := by
  cases ignored : isIgnored text with
  | true =>
    rw [submit, ignored]
    exact .ignored ignored
  | false =>
    cases command : formatCommand? text choice with
    | some answer =>
      rw [submit, ignored, command]
      exact submitted_of_formatCommand? command
    | none =>
      rw [submit_of_not_isIgnored ignored command]
      exact .evaluated (shows_shown frames text choice)

/-- What ends a session: an interrupt, or a farewell at the first prompt. -/
inductive IsEndedBy (session : Session) : Input → Prop where
  | interrupt : IsEndedBy session .interrupt
  | farewell {line : String} (atFirst : session.pending = [])
      (isFarewell : trimmed line ∈ ["exit", "quit"]) : IsEndedBy session (.line line)

/-- How a line is answered: what is printed, and the session that goes on, if it does. -/
inductive Answered (frames : Frames) (session : Session) (line : String) :
    String × Option Session → Prop where
  | closed (isEnded : session.IsEndedBy (.line line)) :
      Answered frames session line ("Exiting Jam REPL.\n", none)
  | collected (isOpen : 0 < parenDepth (joinLines (session.pending ++ [line]))) :
      Answered frames session line ("", some { session with pending := session.pending ++ [line] })
  /-- Nothing is left of the session but its format. -/
  | submitted {next : FormatChoice} {printed : String}
      (notOpen : parenDepth (joinLines (session.pending ++ [line])) ≤ 0)
      (submitted : Submitted frames (trimmed (joinLines (session.pending ++ [line])))
        session.format next printed) :
      Answered frames session line (printed, some { format := next })

theorem answered_answer (frames : Frames) (session : Session) (line : String) :
    Answered frames session line (session.answer frames line) := by
  unfold answer
  split
  · next closes =>
    obtain ⟨atFirst, isFarewell⟩ := of_turn_eq_close closes
    exact .closed (.farewell atFirst isFarewell)
  · next lines collects =>
    obtain ⟨rfl, isOpen⟩ := of_turn_eq_collect collects
    exact .collected isOpen
  · next text submits =>
    obtain ⟨rfl, notOpen⟩ := of_turn_eq_submit submits
    have submitted :=
      submitted_submit frames (trimmed (joinLines (session.pending ++ [line]))) session.format
    generalize submit frames _ session.format = answer at submitted ⊢
    exact .submitted notOpen submitted

/-! ## Inputs that are used up -/

/-- The session behind an input, unless that ends it. -/
def next? (frames : Frames) (session : Session) : Input → Option Session
  | .line line => (session.answer frames line).2
  | .interrupt => none

/-- The session behind some inputs, unless one of them ends it. -/
def after (frames : Frames) (session : Session) : List Input → Option Session
  | [] => some session
  | input :: inputs => (session.next? frames input).bind (·.after frames inputs)

/-- What is printed last when an input ends a session. -/
def closing : Input → String
  | .line _ => "Exiting Jam REPL.\n"
  | .interrupt => farewell

theorem isEndedBy_of_next? (ends : session.next? frames input = none) :
    session.IsEndedBy input := by
  cases input with
  | interrupt => exact .interrupt
  | line line =>
    have answered := answered_answer frames session line
    rw [next?] at ends
    generalize session.answer frames line = answer at ends answered
    cases answered with
    | closed isEnded => exact isEnded
    | collected | submitted => cases ends

/-- What ends a session is just an interrupt or a farewell at the first prompt. -/
theorem next?_eq_none_iff (frames : Frames) (session : Session) (input : Input) :
    session.next? frames input = none ↔ session.IsEndedBy input := by
  refine ⟨isEndedBy_of_next?, fun isEnded => ?_⟩
  cases isEnded with
  | interrupt => rfl
  | @farewell line atFirst isFarewell =>
    have closes : session.turn line = .close := by
      rw [turn_eq, if_pos ⟨atFirst, isFarewell⟩]
    rw [next?, answer, closes]

/-- Nothing is read behind an input that ends the session. -/
theorem transcriptFrom_of_next? (ends : session.next? frames input = none) (printed : String)
    (rest : List Input) :
    transcriptFrom frames session printed (input :: rest) =
      ⟨[(printed, session.prompt)], closing input⟩ := by
  cases input with
  | interrupt => rfl
  | line line =>
    have answered := answered_answer frames session line
    rw [next?] at ends
    rw [transcriptFrom]
    generalize session.answer frames line = answer at ends answered
    cases answered with
    | closed => rfl
    | collected | submitted => cases ends

/-- A session uses up its inputs, or one of them ends it. -/
theorem exists_after (frames : Frames) (session : Session) (inputs : List Input) :
    (∃ last, session.after frames inputs = some last) ∨
      ∃ before input rest last, inputs = before ++ input :: rest ∧
        session.after frames before = some last ∧ last.next? frames input = none := by
  induction inputs generalizing session with
  | nil => exact .inl ⟨session, rfl⟩
  | cons input inputs ih =>
    cases goesOn : session.next? frames input with
    | none => exact .inr ⟨[], input, inputs, session, rfl, rfl, goesOn⟩
    | some next =>
      have steps (inputs : List Input) :
          session.after frames (input :: inputs) = next.after frames inputs := by
        rw [after, goesOn]
        rfl
      rcases ih next with ⟨last, isLast⟩ | ⟨before, stop, rest, last, rfl, isLast, ends⟩
      · exact .inl ⟨last, (steps _).trans isLast⟩
      · exact .inr ⟨input :: before, stop, rest, last, rfl, (steps _).trans isLast, ends⟩

/-- Inputs that are used up are asked for one by one, whatever follows them, and then the session
goes on with what follows. -/
theorem exists_transcriptFrom_append (isLast : session.after frames first = some last)
    (printed : String) :
    ∃ steps text, steps.length = first.length ∧ ∀ second,
      transcriptFrom frames session printed (first ++ second) =
        (transcriptFrom frames last text second).behind steps := by
  induction first generalizing session printed with
  | nil =>
    obtain rfl := Option.some.inj isLast
    exact ⟨[], printed, rfl, fun _ => rfl⟩
  | cons input first ih =>
    rw [after] at isLast
    obtain ⟨next, goesOn, isLast'⟩ := Option.bind_eq_some_iff.1 isLast
    cases input with
    | interrupt => cases goesOn
    | line line =>
      have answers : session.answer frames line = ((session.answer frames line).1, some next) :=
        Prod.ext rfl goesOn
      obtain ⟨steps, text, asked, rest⟩ := ih isLast' (session.answer frames line).1
      refine ⟨(printed, session.prompt) :: steps, text, by simp [asked], fun second => ?_⟩
      rw [List.cons_append, transcriptFrom_line answers, rest, Transcript.behind_behind]
      rfl

/-! ## Whole sessions -/

/-- A transcript that goes on where the input of an earlier one ended.  The prompt at which that one
ended is the prompt that this one starts with, so between the two there is neither a farewell nor a
greeting. -/
def Transcript.following (transcript earlier : Transcript) : Transcript :=
  ⟨earlier.steps ++ transcript.steps.tail, transcript.final⟩

/-- What was printed before the first prompt has no influence on what follows. -/
theorem exists_transcriptFrom (frames : Frames) (session : Session) (inputs : List Input) :
    ∃ steps final, ∀ printed,
      transcriptFrom frames session printed inputs =
        ⟨(printed, session.prompt) :: steps, final⟩ := by
  cases inputs with
  | nil => exact ⟨[], farewell, fun _ => rfl⟩
  | cons input inputs =>
    cases ends : session.next? frames input with
    | none => exact ⟨[], closing input, fun printed => transcriptFrom_of_next? ends printed inputs⟩
    | some next =>
      cases input with
      | interrupt => cases ends
      | line line =>
        have answers : session.answer frames line = ((session.answer frames line).1, some next) :=
          Prod.ext rfl ends
        exact ⟨_, _, fun printed => transcriptFrom_line answers⟩

/-- How often a session asks for input, and how it ends. -/
inductive Ended (frames : Frames) (choice : FormatChoice) (inputs : List Input) : Prop where
  /-- At the end of its input, which was asked for once more. -/
  | usedUp {last : Session} (isLast : after frames { format := choice } inputs = some last)
      (asked : (transcript frames choice inputs).steps.length = inputs.length + 1)
      (asksLast : (transcript frames choice inputs).steps.getLast?.map Prod.snd = some last.prompt)
      (closes : (transcript frames choice inputs).final = farewell)
  /-- At the first input that ends it, behind which nothing is asked for. -/
  | stopped {before rest : List Input} {input : Input} {last : Session}
      (split : inputs = before ++ input :: rest)
      (isLast : after frames { format := choice } before = some last)
      (isEnded : last.IsEndedBy input)
      (asked : (transcript frames choice inputs).steps.length = before.length + 1)
      (closes : (transcript frames choice inputs).final = closing input)
      (unread : ∀ other,
        transcript frames choice (before ++ input :: other) = transcript frames choice inputs)

theorem ended_transcript (frames : Frames) (choice : FormatChoice) (inputs : List Input) :
    Ended frames choice inputs := by
  rcases exists_after frames { format := choice } inputs with
    ⟨last, isLast⟩ | ⟨before, input, rest, last, rfl, isLast, ends⟩
  · obtain ⟨steps, text, asked, goesOn⟩ := exists_transcriptFrom_append isLast (greeting choice)
    have isTranscript : transcript frames choice inputs =
        ⟨steps ++ [(text, last.prompt)], farewell⟩ := by
      have goesOn := goesOn []
      rwa [List.append_nil] at goesOn
    exact .usedUp isLast (by simp [isTranscript, asked]) (by simp [isTranscript])
      (by rw [isTranscript])
  · obtain ⟨steps, text, asked, goesOn⟩ := exists_transcriptFrom_append isLast (greeting choice)
    have isTranscript (other : List Input) : transcript frames choice (before ++ input :: other) =
        ⟨steps ++ [(text, last.prompt)], closing input⟩ := by
      rw [transcript, goesOn, transcriptFrom_of_next? ends]
      rfl
    exact .stopped rfl isLast (isEndedBy_of_next? ends) (by simp [isTranscript, asked])
      (by rw [isTranscript]) fun other => by rw [isTranscript, isTranscript]

/-- Every line of a session is answered, also if evaluating it fails; the session asks for input up
to the end of it or up to what ends the session, and no further; and where its input ended at the
first prompt, it goes on with more input like a fresh session in the format that it then has. -/
theorem transcript_composes (frames : Frames) (choice : FormatChoice) :
    (∀ session line, Answered frames session line (session.answer frames line)) ∧
      (∀ session input, next? frames session input = none ↔ session.IsEndedBy input) ∧
      (∀ inputs, Ended frames choice inputs) ∧
      ∀ first second last, after frames { format := choice } first = some { format := last } →
        transcript frames choice (first ++ second) =
          (transcript frames last second).following (transcript frames choice first) := by
  refine ⟨answered_answer frames, next?_eq_none_iff frames, ended_transcript frames choice, ?_⟩
  intro first second last isLast
  obtain ⟨steps, text, -, goesOn⟩ := exists_transcriptFrom_append isLast (greeting choice)
  obtain ⟨more, final, isRest⟩ := exists_transcriptFrom frames { format := last } second
  have isFirst : transcript frames choice first =
      (transcriptFrom frames { format := last } text []).behind steps := by
    rw [transcript, ← goesOn, List.append_nil]
  rw [isFirst, transcript, transcript, goesOn, isRest, isRest]
  simp [Transcript.following, Transcript.behind, transcriptFrom]

/-- The format asked for at first is none, one submission has a lexical error in its second line,
and the format is set at last. -/
theorem transcript_composes_formats :
    let frames : Frames := fun _ _ => "  ...\n"
    let first := [.line "x", .line "(", .line "1 #", .line "format  json"]
    let second := [.line "exit", .line "y"]
    after frames { format := .named "yaml" } first = some { format := .named "json" } ∧
      transcript frames (.named "yaml") (first ++ second) =
        (transcript frames (.named "json") second).following
          (transcript frames (.named "yaml") first) := by
  intro frames first second
  have isLast : after frames { format := .named "yaml" } first =
      some { format := .named "json" } := by
    decide +kernel
  exact ⟨isLast, (transcript_composes frames _).2.2.2 _ _ _ isLast⟩

end JamLang.Session
