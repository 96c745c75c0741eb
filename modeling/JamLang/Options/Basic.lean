import JamLang.Format

/-!
# Options

What a command line can ask for: the options with their spellings, the settings that they lead to,
and what can be wrong with a command line.

There are two releases of the reader of command lines.  They agree about all words but those in
which a text is attached to an option.
-/

namespace JamLang

/-- What a command line asks for. -/
structure Options where
  source : Option String := none
  isText : Bool := false
  format : FormatChoice := Format.defaultChoice
  out : Option String := none
  pretty : Bool := false
  tokens : Bool := false
  session : Bool := false
  deriving DecidableEq, Repr

/-! ## Names -/

/-- The options that are on or off. -/
inductive Switch where
  | help
  | text
  | pretty
  | tokens
  | session
  deriving DecidableEq, Repr

/-- The options that have a value. -/
inductive Setting where
  | format
  | out
  deriving DecidableEq, Repr

/-- An option. -/
inductive OptionName where
  | switch (switch : Switch)
  | setting (setting : Setting)
  deriving DecidableEq, Repr

namespace OptionName

/-- All options, in the order in which they are listed. -/
def all : List OptionName :=
  [.switch .help, .switch .text, .setting .format, .setting .out, .switch .pretty,
   .switch .tokens, .switch .session]

/-- The letter of an option. -/
def letter? : OptionName → Option Char
  | .switch .help => some 'h'
  | .switch .text => some 's'
  | .setting .format => some 'f'
  | .setting .out => some 'o'
  | .switch .pretty => some 'p'
  | .switch .tokens => some 't'
  | .switch .session => none

/-- The long spelling of an option. -/
def long : OptionName → String
  | .switch .help => "--help"
  | .switch .text => "--string"
  | .setting .format => "--format"
  | .setting .out => "--out"
  | .switch .pretty => "--pretty"
  | .switch .tokens => "--tokens"
  | .switch .session => "--repl"

/-- All spellings of an option, the short one first. -/
def spellings (option : OptionName) : List String :=
  match option.letter? with
  | some letter => [String.ofList ['-', letter], option.long]
  | none => [option.long]

/-- The option with a letter. -/
def ofLetter? (letter : Char) : Option OptionName :=
  all.find? (·.letter? = some letter)

/-- The option with a spelling. -/
def ofSpelling? (text : String) : Option OptionName :=
  all.find? (text ∈ ·.spellings)

/-- The option as complaints name it. -/
def label (option : OptionName) : String :=
  "/".intercalate option.spellings

end OptionName

/-! ## Complaints -/

/-- What is wrong with a command line. -/
inductive UsageFault where
  /-- A name was cut so short that it fits several options. -/
  | ambiguous (text : String) (candidates : List String)
  /-- The value of a setting is missing. -/
  | missingValue (setting : Setting)
  /-- A value is attached to a switch. -/
  | unwantedValue (switch : Switch) (value : String)
  /-- There is no such format. -/
  | invalidFormat (name : String)
  /-- Words are left over. -/
  | unrecognized (texts : List String)
  deriving DecidableEq, Repr

/-- The text of a fault. -/
def UsageFault.message : UsageFault → String
  | .ambiguous text candidates =>
    "ambiguous option: " ++ text ++ " could match " ++ ", ".intercalate candidates
  | .missingValue setting =>
    "argument " ++ (OptionName.setting setting).label ++ ": expected one argument"
  | .unwantedValue switch value =>
    "argument " ++ (OptionName.switch switch).label ++ ": ignored explicit argument " ++
      Text.quoteString value
  | .invalidFormat name =>
    "argument " ++ (OptionName.setting .format).label ++ ": invalid choice: " ++
      Text.quoteString name ++ " (choose from " ++
      ", ".intercalate (Format.all.map fun format => Text.quoteString format.name) ++ ")"
  | .unrecognized texts => "unrecognized arguments: " ++ " ".intercalate texts

/-- A command line that asks for help, or that is wrong. -/
inductive Refusal where
  | help
  | misuse (fault : UsageFault)
  deriving DecidableEq, Repr

namespace Options

/-- The releases of the reader.  The earlier one passes over an equals sign behind the letter that a
word starts with, but not over one behind a later letter, refuses a word in which a letter behind a
switch calls no option, and takes two dashes for no value.  For the later one an equals sign always
says that a value follows, which no switch takes; of a word with such a letter it leaves the rest
over; and two dashes are a value like any other. -/
inductive Release where
  | early
  | late
  deriving DecidableEq, Repr

/-! ## Texts -/

/-- How the command is used. -/
def usage : String :=
  "usage: jam [-h] [-s] [-f \x7bsource,json,repr\x7d] [-o OUTFILE] [-p] [-t] [--repl]\n" ++
  "           [source]\n"

/-- How the command is used, at length. -/
def help : String :=
  usage ++
  "\n" ++
  "positional arguments:\n" ++
  "  source                Filename or raw source (with -s)\n" ++
  "\n" ++
  "options:\n" ++
  "  -h, --help            show this help message and exit\n" ++
  "  -s, --string          Interpret source as literal string\n" ++
  "  -f \x7bsource,json,repr\x7d, --format \x7bsource,json,repr\x7d\n" ++
  "                        Output format (default: source)\n" ++
  "  -o OUTFILE, --out OUTFILE\n" ++
  "                        Output to file\n" ++
  "  -p, --pretty          Show output with banners\n" ++
  "  -t, --tokens          Print tokens instead of the AST\n" ++
  "  --repl                Launch interactive REPL instead of parsing\n"

/-! ## Putting options together -/

/-- An option as it was given. -/
inductive Given where
  | switch (switch : Switch)
  | setting (setting : Setting) (value : String)
  deriving DecidableEq, Repr

/-- The value of a setting, if the text comes to one. -/
def value? (release : Release) (text : String) : Option String :=
  if release = .early ∧ text = "--" then none else some text

/-- The options with one more given; help is given at once, and a format that is named has to
exist. -/
def give (release : Release) (options : Options) : Given → Except Refusal Options
  | .switch .help => .error .help
  | .switch .text => .ok { options with isText := true }
  | .switch .pretty => .ok { options with pretty := true }
  | .switch .tokens => .ok { options with tokens := true }
  | .switch .session => .ok { options with session := true }
  | .setting .out text => .ok { options with out := value? release text }
  | .setting .format text =>
    match value? release text with
    | none => .ok { options with format := .nothing }
    | some name =>
      match Format.ofName? name with
      | some format => .ok { options with format := format.choice }
      | none => .error (.misuse (.invalidFormat name))

end Options

end JamLang
