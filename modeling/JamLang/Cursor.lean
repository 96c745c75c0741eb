import JamLang.Lexer

/-!
# Cursors

A cursor is a place in a text that can be moved one character, one gap, one word or one token at a
time, and that says after every step where it stands, also when the step failed.

A cursor may be put anywhere.  Past the end nothing can be read.  Before the start, positions
count from the end of the text: reading takes the character there and moves on, while looking
ahead sees nothing.  What is not seen counts as white space, as a part of a word and as a part of
a comment, so that every skipping step first passes the characters it reads unseen
(`Cursor.passUnseen`) and goes on from the start of the text.
-/

namespace JamLang

/-- A place in a text. -/
structure Cursor where
  source : List Char
  position : Int := 0
  loc : Loc := .start
  deriving DecidableEq, Repr

/-- Why a step of a cursor fails. -/
inductive CursorFault where
  /-- There is nothing to read at or after the end. -/
  | pastEnd (position line : Int)
  /-- The position lies further before the start than the text is long. -/
  | beforeStart
  | lexical (fault : LexicalFault)
  deriving DecidableEq, Repr

/-- The text of a fault. -/
def CursorFault.message : CursorFault → String
  | .pastEnd position line =>
    "read past end of source at position=<" ++ Text.numeral position ++ ">, line=<" ++
      Text.numeral line ++ ">"
  | .beforeStart => "string index out of range"
  | .lexical fault => fault.diagnostic.message

namespace Cursor

/-- The cursor at the start of a source. -/
def ofString (source : String) : Cursor :=
  { source := source.toList }

/-- The cursor stands at the end or after it. -/
def atEnd (cursor : Cursor) : Bool :=
  cursor.source.length ≤ cursor.position

/-- The character `offset` places ahead, or none outside of the text. -/
def peek (cursor : Cursor) (offset : Int) : Option Char :=
  let index := cursor.position + offset
  if 0 ≤ index then cursor.source[index.toNat]? else none

/-- Reads one character. -/
def next (cursor : Cursor) : Except CursorFault Char × Cursor :=
  let length : Int := cursor.source.length
  let read (index : Int) : Except CursorFault Char × Cursor :=
    match cursor.source[index.toNat]? with
    | some c => (.ok c, { cursor with position := cursor.position + 1, loc := cursor.loc.next c })
    | none => (.error .beforeStart, cursor)
  if length ≤ cursor.position then
    (.error (.pastEnd cursor.position cursor.loc.line), cursor)
  else if 0 ≤ cursor.position then read cursor.position
  else if -length ≤ cursor.position then read (length + cursor.position)
  else (.error .beforeStart, cursor)

/-- What is left of the text from the cursor on. -/
def reader (cursor : Cursor) : Reader :=
  ⟨cursor.loc, cursor.source.drop cursor.position.toNat⟩

/-- The cursor moved to where a reader of the same text has come. -/
def moveTo (cursor : Cursor) (after : Reader) : Cursor :=
  { cursor with
    position := cursor.position + ((cursor.reader.rest.length : Int) - after.rest.length)
    loc := after.loc }

/-- Reads the characters before the start that looking ahead does not see. -/
def passUnseen (cursor : Cursor) : Except CursorFault (List Char) × Cursor :=
  let length : Int := cursor.source.length
  if 0 ≤ cursor.position then (.ok [], cursor)
  else if -length ≤ cursor.position then
    let unseen := cursor.source.drop (length + cursor.position).toNat
    (.ok unseen, { cursor with position := 0, loc := cursor.loc.advance unseen })
  else (.error .beforeStart, cursor)

/-- Passes the unseen characters and takes a step from there. -/
def afterUnseen {α : Type} (cursor : Cursor)
    (step : List Char → Cursor → Except CursorFault α × Cursor) : Except CursorFault α × Cursor :=
  match cursor.passUnseen with
  | (.ok unseen, cursor) => step unseen cursor
  | (.error fault, cursor) => (.error fault, cursor)

/-- Skips white space and comments. -/
def skipGap (cursor : Cursor) : Except CursorFault Unit × Cursor :=
  cursor.afterUnseen fun _ cursor =>
    match Lexer.skipGap cursor.loc cursor.reader.rest with
    | .ok after => (.ok (), cursor.moveTo after)
    | .error fault => (.error (.lexical fault), cursor.moveTo cursor.reader.toEnd)

/-- Skips up to the next line feed. -/
def skipLineComment (cursor : Cursor) : Except CursorFault Unit × Cursor :=
  cursor.afterUnseen fun _ cursor =>
    (.ok (), cursor.moveTo (cursor.reader.dropWhile Lexer.isInLine))

/-- Skips two characters, whatever they are, and everything up to the next end mark of a block
comment. -/
def skipBlockComment (cursor : Cursor) : Except CursorFault Unit × Cursor :=
  match cursor.next with
  | (.error fault, second) => (.error fault, second)
  | (.ok _, second) =>
    match second.next with
    | (.error fault, third) => (.error fault, third)
    | (.ok _, third) =>
      third.afterUnseen fun _ body =>
        match Lexer.afterComment? body.loc body.reader.rest with
        | some after => (.ok (), body.moveTo after)
        | none =>
          (.error (.lexical (.unterminatedComment cursor.loc)), body.moveTo body.reader.toEnd)

/-- Reads the longest symbol that stands here, if there is one. -/
def readSymbol (cursor : Cursor) : Option Token × Cursor :=
  if 0 ≤ cursor.position then
    match Lexer.symbol? cursor.reader.rest with
    | some (kind, text) =>
      (some ⟨kind, String.ofList text, cursor.loc⟩,
        cursor.moveTo (cursor.reader.drop text.length))
    | none => (none, cursor)
  else (none, cursor)

/-- Reads the longest run of characters that may go on a word. -/
def readWord (cursor : Cursor) : Except CursorFault String × Cursor :=
  cursor.afterUnseen fun unseen cursor =>
    let run := cursor.reader.rest.takeWhile Lexer.isWordChar
    (.ok (String.ofList (unseen ++ run)),
      cursor.moveTo (cursor.reader.dropWhile Lexer.isWordChar))

/-- Skips a gap and reads the token after it; none at the end of the text. -/
def nextToken (cursor : Cursor) : Except CursorFault (Option Token) × Cursor :=
  cursor.afterUnseen fun _ cursor =>
    match Lexer.nextToken cursor.reader with
    | .token token after => (.ok (some token), cursor.moveTo after)
    | .finished after => (.ok none, cursor.moveTo after)
    | .fault fault after => (.error (.lexical fault), cursor.moveTo after)

end Cursor

end JamLang
