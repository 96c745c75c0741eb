import JamLang.FileSystem
import JamLang.Options.Line
import JamLang.Session
import JamLang.Text.LineEnd
import JamLang.Text.Utf8

/-!
# The command

The command reads a source, makes an output text of it and prints that or writes it to a file.  All
that can be wrong with the source is found before anything is printed or written.  `Command.run`
does all this on a file system and returns the file system it leaves behind; `Command.main` starts
from a command line and may open a session instead.
-/

namespace JamLang

/-- What the command is to do: with which source, a path unless `isText` says otherwise, how to
show it, and where to. -/
structure Request where
  source : String
  isText : Bool := false
  format : FormatChoice := Format.defaultChoice
  out : Option String := none
  pretty : Bool := false
  tokens : Bool := false
  deriving DecidableEq, Repr

/-- Why a request fails. -/
inductive RunFault where
  /-- The path does not end as the path of a program does. -/
  | notProgramFile
  | file (fault : FileFault)
  | encoding (fault : Text.Utf8.Fault)
  | parse (fault : Fault)
  | format (fault : FormatFault)
  deriving DecidableEq, Repr

/-- The text of a fault. -/
def RunFault.message : RunFault → String
  | .notProgramFile => "Only .jam files are supported."
  | .file fault => fault.message
  | .encoding fault => fault.message
  | .parse fault => fault.message
  | .format fault => fault.message

/-- The text of a program file. -/
def decodeProgram (bytes : List UInt8) : Except Text.Utf8.Fault String :=
  (Text.Utf8.decode bytes).map fun text => String.ofList (Text.foldLineEnds text)

/-- The tree of a program file. -/
def parseBytes (bytes : List UInt8) : Except RunFault Node :=
  match decodeProgram bytes with
  | .ok source => (parse source).mapError .parse
  | .error fault => .error (.encoding fault)

/-- A token as a line of the token list: location, kind and text between tabs. -/
def Token.dumpLine (token : Token) : String :=
  Text.numeral token.loc.line ++ ":" ++ Text.numeral token.loc.column ++ "\t" ++
    token.kind.name ++ "\t" ++ token.text

/-- The token list of a source. -/
def dumpTokens (tokens : List Token) : String :=
  "\n".intercalate (tokens.map Token.dumpLine)

namespace Request

/-- The source text, given a way to read files. -/
def sourceText (request : Request) (read : String → Except FileFault (List UInt8)) :
    Except RunFault String :=
  if request.isText then .ok request.source
  else if ['.', 'j', 'a', 'm'].isSuffixOf request.source.toList then
    match read request.source with
    | .error fault => .error (.file fault)
    | .ok bytes => (decodeProgram bytes).mapError .encoding
  else .error .notProgramFile

/-- The output text of a source. -/
def output (request : Request) (source : String) : Except RunFault String :=
  if request.tokens then
    match Lexer.tokenize source with
    | .ok tokens => .ok (dumpTokens tokens)
    | .error fault => .error (.parse (.lexical fault))
  else
    match parse source with
    | .ok tree => (formatChosen request.format tree).mapError .format
    | .error fault => .error (.parse fault)

/-- The output text, given a way to read files. -/
def prepare (request : Request) (read : String → Except FileFault (List UInt8)) :
    Except RunFault String :=
  match request.sourceText read with
  | .ok source => request.output source
  | .error fault => .error fault

/-- The file to write to, if there is one. -/
def target? (request : Request) : Option String :=
  request.out.filter (· ≠ "")

/-- What is printed of an output text. -/
def shown (request : Request) (text : String) : String :=
  let banner := String.ofList (List.replicate 20 '=')
  let title := if request.tokens then "Tokens" else "Jam AST"
  if request.pretty then
    banner ++ "\n" ++ title ++ "\n" ++ banner ++ "\n" ++ text ++ "\n" ++ banner ++ "\n\n"
  else if request.target?.isNone then text ++ "\n"
  else ""

/-- What is printed after the output text was written to a file. -/
def confirmation (request : Request) (path : String) : String :=
  if request.pretty then "(wrote to " ++ path ++ ")\n" else ""

/-- What an output file holds. -/
def fileBytes (text : String) : List UInt8 :=
  Text.Utf8.encode (text ++ "\n")

end Request

namespace Command

/-- What a request comes to: what was printed, whether it failed, and the files left behind. -/
structure Outcome where
  printed : String
  fault : Option RunFault
  files : FileSystem
  deriving DecidableEq, Repr

/-- Carries out a request. -/
def run (request : Request) (files : FileSystem) : Outcome :=
  match request.prepare files.read with
  | .error fault => ⟨"", some fault, files⟩
  | .ok text =>
    match request.target? with
    | none => ⟨request.shown text, none, files⟩
    | some path =>
      match files.write path (Request.fileBytes text) with
      | .error fault => ⟨request.shown text, some (.file fault), files⟩
      | .ok written => ⟨request.shown text ++ request.confirmation path, none, written⟩

/-- How the command ends: its exit code, what it printed on its two outputs, and the files left
behind. -/
structure Ending where
  code : Nat
  printed : String
  complaint : String
  files : FileSystem
  deriving DecidableEq, Repr

/-- What a command line is for. -/
inductive Task where
  /-- A session in the given format. -/
  | session (format : FormatChoice)
  | request (request : Request)
  | refuse (refusal : Refusal)
  deriving DecidableEq, Repr

/-- The task that options describe: without a source there is nothing to do but to open a
session. -/
def Task.ofOptions (options : Options) : Task :=
  match options.session, options.source with
  | false, some source =>
    .request ⟨source, options.isText, options.format, options.out, options.pretty,
      options.tokens⟩
  | _, _ => .session options.format

/-- The task of a command line. -/
def Task.ofArguments (release : Options.Release) (arguments : List String) : Task :=
  match arguments with
  | [] => .session Format.defaultChoice
  | _ :: _ =>
    match Options.ofArguments release arguments with
    | .ok options => .ofOptions options
    | .error refusal => .refuse refusal

/-- What is printed about a failed request. -/
def complaint (fault : RunFault) : String :=
  "[error] >>> " ++ fault.message ++ "\n"

/-- What is printed about a wrong command line. -/
def usageComplaint (fault : UsageFault) : String :=
  Options.usage ++ "jam: error: " ++ fault.message ++ "\n"

/-- What a command runs on: a release of the reader of command lines, and what tracebacks show. -/
structure Host where
  release : Options.Release
  frames : Session.Frames

/-- Carries out a command line; a session is typed the given inputs. -/
def main (host : Host) (arguments : List String) (files : FileSystem) (inputs : List Input) :
    Ending :=
  match Task.ofArguments host.release arguments with
  | .session format => ⟨0, (Session.transcript host.frames format inputs).text, "", files⟩
  | .refuse .help => ⟨0, Options.help, "", files⟩
  | .refuse (.misuse fault) => ⟨2, "", usageComplaint fault, files⟩
  | .request request =>
    let outcome := run request files
    match outcome.fault with
    | none => ⟨0, outcome.printed, "", outcome.files⟩
    | some fault => ⟨1, outcome.printed, complaint fault, outcome.files⟩

end Command

end JamLang
