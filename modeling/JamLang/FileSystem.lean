import JamLang.Text.Quoted

/-!
# File systems

What a command can see of the files of its computer: one tree of folders and files, the folder in
this tree that the command works in, and what it may not do there.  A path that starts with a slash
leads from the top of the tree, any other path from the folder of the command.  There are no links
and no devices, and a file that can be opened can be read or written to its end.
-/

namespace JamLang

/-- Why a path cannot be opened. -/
inductive PathFault where
  | notFound
  | denied
  | notFolder
  | isFolder
  | nameTooLong
  /-- The path holds a NUL character, which no path may. -/
  | nullCharacter
  deriving DecidableEq, Repr

/-- A path that cannot be opened. -/
structure FileFault where
  path : String
  fault : PathFault
  deriving DecidableEq, Repr

/-- The text of a fault. -/
def FileFault.message (fault : FileFault) : String :=
  match fault.fault with
  | .notFound => "[Errno 2] No such file or directory: " ++ Text.quoteString fault.path
  | .denied => "[Errno 13] Permission denied: " ++ Text.quoteString fault.path
  | .notFolder => "[Errno 20] Not a directory: " ++ Text.quoteString fault.path
  | .isFolder => "[Errno 21] Is a directory: " ++ Text.quoteString fault.path
  | .nameTooLong => "[Errno 36] File name too long: " ++ Text.quoteString fault.path
  | .nullCharacter => "embedded null byte"

/-- A file with its bytes, or a folder. -/
inductive Entry where
  | file (bytes : List UInt8)
  | folder
  deriving DecidableEq, Repr

/-- What may be denied at a place. -/
inductive Access where
  /-- To look up a name in a folder. -/
  | enter
  /-- To put a file into a folder. -/
  | add
  | read
  /-- To write over a file. -/
  | write
  deriving DecidableEq, Repr

/-- A tree of files and folders, as a command sees it.  Places are given by the names that lead to
them from the top. -/
structure FileSystem where
  entries : List (List String × Entry)
  /-- The folder that the command works in. -/
  here : List String := []
  denied : List (Access × List String) := []
  deriving DecidableEq, Repr

namespace FileSystem

/-- What stands at a place.  The top is a folder, and so is whatever holds an entry. -/
def entry? (files : FileSystem) (place : List String) : Option Entry :=
  match files.entries.lookup place with
  | some entry => some entry
  | none =>
    if place.isEmpty ∨ files.entries.any fun entry => place.isPrefixOf entry.1 then some .folder
    else none

/-- A place has to be a folder. -/
def requireFolder (files : FileSystem) (place : List String) : Except PathFault Unit :=
  match files.entry? place with
  | none => .error .notFound
  | some (.file _) => .error .notFolder
  | some .folder => .ok ()

/-- Something must not be denied at a place. -/
def requireAccess (files : FileSystem) (access : Access) (place : List String) :
    Except PathFault Unit :=
  if (access, place) ∈ files.denied then .error .denied else .ok ()

/-! ## Paths -/

/-- The number of bytes that a name may have at most. -/
def nameLimit : Nat := 255

/-- The number of bytes that a path has to stay below. -/
def pathLimit : Nat := 4096

/-- What is wrong with a path as a text. -/
def malformed? (path : String) : Option PathFault :=
  if '\x00' ∈ path.toList then some .nullCharacter
  else if path = "" then some .notFound
  else if pathLimit ≤ path.utf8ByteSize then some .nameTooLong
  else none

/-- The names that a path is made of. -/
def splitPath (path : String) : List String :=
  (path.toList.splitOn '/').map String.ofList

/-- Where a path starts. -/
def start (files : FileSystem) (path : String) : List String :=
  if path.toList.head? = some '/' then [] else files.here

/-- A name can be looked up at a place, which has to be a folder.  Between two slashes in a row
there is no name to be looked up. -/
def requireLookup (files : FileSystem) (place : List String) (name : String) :
    Except PathFault Unit := do
  files.requireFolder place
  if name = "" then pure () else files.requireAccess .enter place

/-- The place that a name leads to from a folder.  The top holds itself. -/
def child (folder : List String) (name : String) : Except PathFault (List String) :=
  if name = "" ∨ name = "." then .ok folder
  else if name = ".." then .ok folder.dropLast
  else if nameLimit < name.utf8ByteSize then .error .nameTooLong
  else .ok (folder ++ [name])

/-- Where one name leads from a place. -/
def enter (files : FileSystem) (place : List String) (name : String) :
    Except PathFault (List String) := do
  files.requireLookup place name
  child place name

/-- Where names lead from a place. -/
def walk (files : FileSystem) (place names : List String) : Except PathFault (List String) :=
  names.foldlM files.enter place

/-- Where a path leads. -/
def locate (files : FileSystem) (path : String) : Except PathFault (List String) :=
  match malformed? path with
  | some fault => .error fault
  | none => files.walk (files.start path) (splitPath path)

/-- The bytes of the file that a path leads to. -/
def find (files : FileSystem) (path : String) : Except PathFault (List UInt8) := do
  let place ← files.locate path
  match files.entry? place with
  | none => .error .notFound
  | some entry =>
    files.requireAccess .read place
    match entry with
    | .file bytes => .ok bytes
    | .folder => .error .isFolder

/-- A file can be written at a place in a folder, where there may be one already. -/
def requireWritable (files : FileSystem) (folder place : List String) : Except PathFault Unit :=
  match files.entry? place with
  | some .folder => .error .isFolder
  | some (.file _) => files.requireAccess .write place
  | none => files.requireAccess .add folder

/-- Where a file goes that is written under a path: to a name in a folder that is there.  A path
that ends in a slash means a folder, whether there is one or not. -/
def target (files : FileSystem) (path : String) : Except PathFault (List String) :=
  match malformed? path with
  | some fault => .error fault
  | none => do
    let names := splitPath path
    let named := (names.reverse.dropWhile (· = "")).reverse
    let name := named.getLast?.getD ""
    let folder ← files.walk (files.start path) named.dropLast
    files.requireLookup folder name
    if names.getLast? = some "" then .error .isFolder
    else do
      let place ← child folder name
      files.requireWritable folder place
      pure place

/-! ## Reading and writing -/

/-- The bytes of the file that a path leads to. -/
def read (files : FileSystem) (path : String) : Except FileFault (List UInt8) :=
  (files.find path).mapError (⟨path, ·⟩)

/-- The file system with an entry put at a place. -/
def put (files : FileSystem) (place : List String) (entry : Entry) : FileSystem :=
  { files with entries := files.entries.filter (·.1 ≠ place) ++ [(place, entry)] }

/-- The file system with a file written under a path. -/
def write (files : FileSystem) (path : String) (bytes : List UInt8) : Except FileFault FileSystem :=
  match files.target path with
  | .error fault => .error ⟨path, fault⟩
  | .ok place => .ok (files.put place (.file bytes))

end FileSystem

end JamLang
