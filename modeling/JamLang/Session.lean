import JamLang.Format

/-!
# Interactive sessions

A session is typed line by line.  Lines are collected until no parenthesis is open any more and
then submitted as one text: a command that asks for or sets the output format, or a program that
is parsed and shown.  A session is a state and a function that answers a line; what it prints is
part of the answer, so a whole session is a list of prompts and printed texts.
-/

namespace JamLang

/-- What happens at a prompt. -/
inductive Input where
  | line (text : String)
  | interrupt
  deriving DecidableEq, Repr

/-- Between two lines of a session: the output format that is asked for, and the lines
collected. -/
structure Session where
  format : FormatChoice
  pending : List String := []
  deriving DecidableEq, Repr

/-- The number of parentheses that a source opens, less the number that it closes; zero for a text
that has no tokens. -/
def parenDepth (source : String) : Int :=
  match Lexer.tokenize source with
  | .ok tokens =>
    (tokens.countP (·.kind = .leftParen) : Int) - tokens.countP (·.kind = .rightParen)
  | .error _ => 0

/-- Why a submitted program cannot be shown, other than that it is not well formed. -/
inductive EvalFault where
  | parse (fault : Fault)
  | format (fault : FormatFault)
  deriving DecidableEq, Repr

/-- The text of a fault. -/
def EvalFault.message : EvalFault → String
  | .parse fault => fault.message
  | .format fault => fault.message

namespace Session

/-! ## Answers to one submission -/

/-- The answer to a command about the output format: the format from now on, and what is printed.
None if the text is no such command. -/
def formatCommand? (source : String) (format : FormatChoice) : Option (FormatChoice × String) :=
  match (Text.words source.toList).map String.ofList with
  | ["format"] => some (format, "[mode] >>> Output format: " ++ format.text ++ "\n")
  | ["format", name] =>
    if (Format.ofName? name).isSome then
      some (.named name, "[mode] >>> Output format set to " ++ name ++ "\n")
    else none
  | _ => none

/-- The answer to a program: the program in the output format, or the report on it. -/
def evaluate (source : String) (format : FormatChoice) : Except EvalFault String :=
  match parse source with
  | .ok tree =>
    match formatChosen format tree with
    | .ok text => .ok (text ++ "\n")
    | .error fault => .error (.format fault)
  | .error fault =>
    match fault.diagnostic? with
    | some diagnostic => .ok ("[error] >>> " ++ diagnostic.message ++ "\n")
    | none => .error (.parse fault)

/-- What a traceback shows of the calls that led to a fault, between its first line and the line
with the fault.  The text that is evaluated and the format decide about it. -/
abbrev Frames := String → FormatChoice → String

/-- What is printed for a fault that is no report on the program. -/
def trace (frames : String) (fault : EvalFault) : String :=
  "[error] >>>\nTraceback (most recent call last):\n" ++ frames ++ "ValueError: " ++
    fault.message ++ "\n\n"

/-! ## One line -/

/-- The lines of a submission as one text. -/
def joinLines (lines : List String) : String :=
  "\n".intercalate lines

/-- The submitted text, without the blanks around it. -/
def trimmed (source : String) : String :=
  String.ofList (Text.trim source.toList)

/-- The prompt before the next line. -/
def prompt (session : Session) : String :=
  if session.pending.isEmpty then ">>> " else "... "

/-- The first text of a session. -/
def greeting (format : FormatChoice) : String :=
  "Jam REPL [format=" ++ format.text ++ "]. Type 'exit' or 'quit' to leave.\n"

/-- The last text of a session whose input ends or is interrupted. -/
def farewell : String :=
  "\nExiting Jam REPL.\n"

/-- The text is nothing, or starts with a comment. -/
def isIgnored (text : String) : Bool :=
  text.isEmpty || ['/', '/'].isPrefixOf text.toList

/-- The answer to a submitted text: the format from now on, and what is printed. -/
def submit (frames : Frames) (text : String) (format : FormatChoice) : FormatChoice × String :=
  if isIgnored text then (format, "")
  else
    match formatCommand? text format with
    | some answer => answer
    | none =>
      match evaluate text format with
      | .ok printed => (format, printed)
      | .error fault => (format, trace (frames text format) fault)

/-- What a line comes to. -/
inductive Turn where
  /-- The session ends. -/
  | close
  /-- A parenthesis is still open, and more lines are collected. -/
  | collect (lines : List String)
  /-- A text is submitted. -/
  | submit (text : String)
  deriving DecidableEq, Repr

/-- What a line comes to.  Whether a parenthesis is open is seen from the lines as they were typed;
what is submitted is trimmed. -/
def turn (session : Session) (line : String) : Turn :=
  if session.pending.isEmpty ∧ trimmed line ∈ ["exit", "quit"] then .close
  else
    let lines := session.pending ++ [line]
    if 0 < parenDepth (joinLines lines) then .collect lines
    else .submit (trimmed (joinLines lines))

/-- The answer to a line: what is printed, and the session that goes on, if it does. -/
def answer (frames : Frames) (session : Session) (line : String) : String × Option Session :=
  match session.turn line with
  | .close => ("Exiting Jam REPL.\n", none)
  | .collect lines => ("", some { session with pending := lines })
  | .submit text =>
    let (format, printed) := submit frames text session.format
    (printed, some { format })

/-! ## Whole sessions -/

/-- A session as it is seen: for every prompt the text printed since the one before, and the text
printed after the last. -/
structure Transcript where
  steps : List (String × String)
  final : String
  deriving DecidableEq, Repr

/-- The rest of a session, before whose next prompt a text was printed. -/
def transcriptFrom (frames : Frames) (session : Session) (printed : String) :
    List Input → Transcript
  | .line line :: inputs =>
    match session.answer frames line with
    | (answer, some next) =>
      let rest := transcriptFrom frames next answer inputs
      { rest with steps := (printed, session.prompt) :: rest.steps }
    | (answer, none) => ⟨[(printed, session.prompt)], answer⟩
  | .interrupt :: _ => ⟨[(printed, session.prompt)], farewell⟩
  | [] => ⟨[(printed, session.prompt)], farewell⟩

/-- A session in the given format that is typed the given inputs. -/
def transcript (frames : Frames) (format : FormatChoice) (inputs : List Input) : Transcript :=
  transcriptFrom frames { format } (greeting format) inputs

/-- Everything a session prints, prompts included. -/
def Transcript.text (transcript : Transcript) : String :=
  String.join (transcript.steps.map fun step => step.1 ++ step.2) ++ transcript.final

end Session

end JamLang
