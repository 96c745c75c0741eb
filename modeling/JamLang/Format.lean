import JamLang.Node.Document
import JamLang.Node.Outline
import JamLang.Node.Source
import JamLang.Parse.Program

/-!
# Output formats

A tree can be shown as source text, as a JSON document or as an outline.  Formats are asked for by
name, and what is asked for is no format as long as it has not been looked up.
-/

namespace JamLang

/-- The ways to show a tree. -/
inductive Format where
  | source
  | json
  | outline
  deriving DecidableEq, Repr

/-- What is asked for as a format. -/
inductive FormatChoice where
  | named (name : String)
  /-- A value was given and came to nothing. -/
  | nothing
  deriving DecidableEq, Repr

namespace FormatChoice

/-- What is asked for, as it is shown. -/
def text : FormatChoice → String
  | .named name => name
  | .nothing => "[]"

/-- What is asked for, as complaints name it. -/
def quoted : FormatChoice → String
  | .named name => Text.quoteString name
  | .nothing => "[]"

end FormatChoice

/-- Why a tree cannot be shown in a format. -/
inductive FormatFault where
  | unknownFormat (choice : FormatChoice)
  | print (fault : PrintFault)
  deriving DecidableEq, Repr

/-- The text of a fault. -/
def FormatFault.message : FormatFault → String
  | .unknownFormat choice => "Unknown output format: " ++ choice.quoted
  | .print fault => fault.message

namespace Format

/-- The name of a format. -/
def name : Format → String
  | .source => "source"
  | .json => "json"
  | .outline => "repr"

/-- All formats, in the order in which they are offered. -/
def all : List Format :=
  [.source, .json, .outline]

/-- The choice of a format. -/
def choice (format : Format) : FormatChoice :=
  .named format.name

/-- What is asked for unless something else is. -/
def defaultChoice : FormatChoice := Format.source.choice

/-- The format that has a name. -/
def ofName? (name : String) : Option Format :=
  all.find? (·.name = name)

/-- The format that is asked for. -/
def ofChoice? : FormatChoice → Option Format
  | .named name => ofName? name
  | .nothing => none

/-- A tree in a format. -/
def render (tree : Node) : Format → Except PrintFault String
  | .source => tree.source
  | .json => tree.document.render.mapError .numeral
  | .outline => tree.outline

end Format

/-- A tree in the format that is asked for. -/
def formatChosen (choice : FormatChoice) (tree : Node) : Except FormatFault String :=
  match Format.ofChoice? choice with
  | some format => (format.render tree).mapError .print
  | none => .error (.unknownFormat choice)

theorem formatChosen_choice (format : Format) (tree : Node) :
    formatChosen format.choice tree = (format.render tree).mapError .print := by
  cases format <;> rfl

end JamLang
