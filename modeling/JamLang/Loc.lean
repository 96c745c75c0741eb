/-!
# Locations in a text

A location is a line and a column, both counted from one in a text.  Tokens and nodes that were
never read from a text carry the location zero, or any other, so both numbers are integers.
-/

namespace JamLang

/-- A line and a column. -/
structure Loc where
  line : Int
  column : Int
  deriving DecidableEq, Repr

namespace Loc

/-- Where a text starts. -/
def start : Loc := ⟨1, 1⟩

/-- The location of what was made by hand and has none. -/
def unknown : Loc := ⟨0, 0⟩

/-- The location after a character: a line feed starts the next line. -/
def next (loc : Loc) (c : Char) : Loc :=
  if c = '\n' then ⟨loc.line + 1, 1⟩ else ⟨loc.line, loc.column + 1⟩

/-- The location after a text. -/
def advance (loc : Loc) (text : List Char) : Loc :=
  text.foldl next loc

@[simp] theorem advance_nil (loc : Loc) : loc.advance [] = loc := rfl

@[simp] theorem advance_cons (loc : Loc) (c : Char) (text : List Char) :
    loc.advance (c :: text) = (loc.next c).advance text := rfl

theorem advance_append (loc : Loc) (first second : List Char) :
    loc.advance (first ++ second) = (loc.advance first).advance second :=
  List.foldl_append

end Loc

end JamLang
