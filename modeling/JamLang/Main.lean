import JamLang.Command

/-!
# The executable

Reads the command line, the files and the typed lines, and prints and writes what the pure modules
answer.  Nothing is decided here.
-/

namespace JamLang.Main

/-- The numbers by which the system says that something in a path is no directory.  Some calls
negate what they report. -/
def notDirectoryCodes : List UInt32 := [20, 0 - 20]

/-- The reason that the file system gave for not opening a path. -/
def pathFault : IO.Error → PathFault
  | .inappropriateType _ code _ =>
    if code ∈ notDirectoryCodes then .notFolder else .isFolder
  | .resourceBusy .. => .isFolder
  | .permissionDenied .. => .denied
  | _ => .notFound

/-- Does something with a path that can be a path. -/
def withPath {α : Type} (path : String) (act : IO α) : IO (Except FileFault α) := do
  match FileSystem.malformed? path with
  | some fault => pure (.error ⟨path, fault⟩)
  | none =>
    try
      let result ← act
      pure (.ok result)
    catch error => pure (.error ⟨path, pathFault error⟩)

/-- The bytes of a file. -/
def readFile (path : String) : IO (Except FileFault (List UInt8)) :=
  withPath path do
    let bytes ← IO.FS.readBinFile path
    pure bytes.toList

/-- Writes the bytes of a file. -/
def writeFile (path : String) (bytes : List UInt8) : IO (Except FileFault Unit) :=
  withPath path (IO.FS.writeBinFile path ⟨bytes.toArray⟩)

/-- Prints without a line end. -/
def emit (text : String) : IO Unit := do
  let stdout ← IO.getStdout
  stdout.putStr text
  stdout.flush

/-- What the executable runs on.  It keeps no record of calls for a traceback. -/
def host : Command.Host :=
  { release := .late, frames := fun _ _ => "  ...\n" }

/-- Carries on a session until it ends. -/
partial def converse (session : Session) : IO Unit := do
  emit session.prompt
  let line ← (← IO.getStdin).getLine
  if line.isEmpty then
    emit Session.farewell
  else
    let line := if line.endsWith "\n" then (line.dropEnd 1).toString else line
    let (printed, next) := session.answer host.frames line
    emit printed
    match next with
    | some session => converse session
    | none => pure ()

/-- Carries out a request. -/
def perform (request : Request) : IO UInt32 := do
  let content ← if request.isText then pure (.ok []) else readFile request.source
  match request.prepare fun _ => content with
  | .error fault =>
    (← IO.getStderr).putStr (Command.complaint fault)
    pure 1
  | .ok text =>
    emit (request.shown text)
    match request.target? with
    | none => pure 0
    | some path =>
      match ← writeFile path (Request.fileBytes text) with
      | .ok _ =>
        emit (request.confirmation path)
        pure 0
      | .error fault =>
        (← IO.getStderr).putStr (Command.complaint (.file fault))
        pure 1

end JamLang.Main

/-- The command. -/
def main (arguments : List String) : IO UInt32 := do
  match JamLang.Command.Task.ofArguments JamLang.Main.host.release arguments with
  | .session format =>
    JamLang.Main.emit (JamLang.Session.greeting format)
    JamLang.Main.converse { format }
    pure 0
  | .refuse .help =>
    JamLang.Main.emit JamLang.Options.help
    pure 0
  | .refuse (.misuse fault) =>
    (← IO.getStderr).putStr (JamLang.Command.usageComplaint fault)
    pure 2
  | .request request => JamLang.Main.perform request
