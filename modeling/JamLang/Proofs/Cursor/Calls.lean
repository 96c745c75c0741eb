import JamLang.Proofs.Cursor.Facing
import JamLang.Proofs.Text.Offset

/-!
# Cursors under calls

A cursor may be called in any order, and some of the calls fail, one of them halfway: a block
comment is skipped by reading two characters unseen, of which only one may be there.  From the start
of a source no order of calls brings the cursor out of the text, back, or to a location that is not
the one of its position (`keepsPlace_calls`).  What carries this is that the cursor faces a reader of
the text, and that every call only reads on from there (`step_facing`).

Two answers of a cursor are final: that no token starts here, and that there are no more tokens.
The cursor then stands where the next search for a token starts and ends at once.
-/

namespace JamLang

open Lexer (Cut IsGap)

variable {text : List Char} {reader middle after : Reader} {fault : LexicalFault} {c : Char}
  {loc : Loc}

/-! ## Readers that read on -/

namespace Reader

/-- The second reader is where the first one comes by reading what is between them. -/
def LeadsTo (reader after : Reader) : Prop :=
  ∃ between, reader.rest = between ++ after.rest ∧ after.loc = reader.loc.advance between

theorem LeadsTo.refl (reader : Reader) : reader.LeadsTo reader :=
  ⟨[], rfl, rfl⟩

theorem LeadsTo.trans (first : reader.LeadsTo middle) (second : middle.LeadsTo after) :
    reader.LeadsTo after := by
  obtain ⟨between, split, moved⟩ := first
  obtain ⟨further, split', moved'⟩ := second
  refine ⟨between ++ further, ?_, ?_⟩
  · rw [split, split', List.append_assoc]
  · rw [moved', moved, Loc.advance_append]

theorem LeadsTo.isSuffix (leadsTo : reader.LeadsTo after) : after.rest <:+ reader.rest := by
  obtain ⟨between, split, -⟩ := leadsTo
  exact ⟨between, split.symm⟩

theorem leadsTo_next (loc : Loc) (c : Char) (rest : List Char) :
    LeadsTo ⟨loc, c :: rest⟩ ⟨loc.next c, rest⟩ :=
  ⟨[c], rfl, rfl⟩

theorem leadsTo_drop (reader : Reader) (count : Nat) : reader.LeadsTo (reader.drop count) :=
  ⟨reader.rest.take count, (List.take_append_drop count reader.rest).symm, rfl⟩

theorem leadsTo_dropWhile (test : Char → Bool) (reader : Reader) :
    reader.LeadsTo (reader.dropWhile test) :=
  ⟨reader.rest.takeWhile test, List.takeWhile_append_dropWhile.symm, rfl⟩

theorem leadsTo_toEnd (reader : Reader) : reader.LeadsTo reader.toEnd :=
  ⟨reader.rest, (List.append_nil reader.rest).symm, rfl⟩

theorem leadsTo_of_skipGap (skipped : Lexer.skipGap reader.loc reader.rest = .ok after) :
    reader.LeadsTo after := by
  have gapEnd := Lexer.gapEnd_skipGap reader.loc reader.rest
  rw [skipped] at gapEnd
  cases gapEnd with
  | stopped split => exact ⟨_, split, rfl⟩

theorem leadsTo_of_afterComment? (found : Lexer.afterComment? reader.loc reader.rest = some after) :
    reader.LeadsTo after := by
  obtain ⟨body, split, -, moved⟩ := Lexer.exists_of_afterComment? found
  exact ⟨body ++ ['*', '/'], by simpa using split, moved⟩

end Reader

/-! ## Reading a token and reading on -/

namespace Lexer

/-- Reading a token comes to what the cut of the text starts with. -/
theorem exists_scan (reader : Reader) :
    ∃ cut : Cut, cut.text = reader.rest ∧ cut.IsLongestMatch ∧
      nextToken reader = cut.scan reader.loc := by
  obtain ⟨cut, isText, isLongest⟩ := exists_isLongestMatch reader.rest
  have scanned := nextToken_text isLongest reader.loc
  rw [isText] at scanned
  exact ⟨cut, isText, isLongest, scanned⟩

theorem leadsTo_nextToken (reader : Reader) : reader.LeadsTo (nextToken reader).after := by
  obtain ⟨cut, isText, -, scanned⟩ := exists_scan reader
  rw [scanned]
  cases cut with
  | finished gap => exact ⟨gap, isText.symm.trans (List.append_nil gap).symm, rfl⟩
  | illegal gap c rest => exact ⟨gap, isText.symm, rfl⟩
  | unclosed gap rest => exact ⟨gap ++ rest, isText.symm.trans (List.append_nil _).symm, rfl⟩
  | token gap kind lexeme following =>
    refine ⟨gap ++ lexeme, ?_, (Loc.advance_append ..).symm⟩
    rw [← isText, List.append_assoc]
    rfl

/-- Where no token starts, no token is found again. -/
theorem nextToken_of_illegal
    (stops : nextToken reader = .fault (.illegalCharacter c loc) after) :
    after.loc = loc ∧ after.rest.head? = some c ∧
      nextToken after = .fault (.illegalCharacter c loc) after := by
  obtain ⟨cut, -, isLongest, scanned⟩ := exists_scan reader
  rw [scanned] at stops
  cases cut with
  | illegal gap d rest =>
    obtain ⟨-, isOutside, isIllegal⟩ := isLongest
    obtain ⟨isFault, rfl⟩ := Scan.fault.inj stops
    obtain ⟨rfl, rfl⟩ := LexicalFault.illegalCharacter.inj isFault
    have isLongest' : (Cut.illegal [] d rest).IsLongestMatch := ⟨.nil, isOutside, isIllegal⟩
    exact ⟨rfl, rfl, nextToken_text isLongest' _⟩
  | finished | unclosed | token => simp [Cut.scan] at stops

/-- At the end of the text the end is found again. -/
theorem nextToken_of_finished (ends : nextToken reader = .finished after) :
    nextToken after = .finished after := by
  obtain ⟨cut, -, -, scanned⟩ := exists_scan reader
  rw [scanned] at ends
  cases cut with
  | finished gap =>
    obtain rfl := Scan.finished.inj ends
    have isLongest : (Cut.finished []).IsLongestMatch := IsGap.nil
    exact nextToken_text isLongest _
  | illegal | unclosed | token => simp [Cut.scan] at ends

end Lexer

/-! ## Calls -/

namespace Cursor

/-- A call of a cursor. -/
inductive Call where
  | atEnd
  | peek (offset : Int)
  | next
  | skipGap
  | skipLineComment
  | skipBlockComment
  | readSymbol
  | readWord
  | nextToken
  deriving DecidableEq, Repr

/-- The cursor that a call leaves behind, whether the call fails or not. -/
def step (cursor : Cursor) : Call → Cursor
  | .atEnd | .peek _ => cursor
  | .next => cursor.next.2
  | .skipGap => cursor.skipGap.2
  | .skipLineComment => cursor.skipLineComment.2
  | .skipBlockComment => cursor.skipBlockComment.2
  | .readSymbol => cursor.readSymbol.2
  | .readWord => cursor.readWord.2
  | .nextToken => cursor.nextToken.2

/-- The cursor after calls. -/
def afterCalls (cursor : Cursor) (calls : List Call) : Cursor :=
  calls.foldl step cursor

/-- The cursor stands in the text or at its end, and has the location of its position. -/
structure IsPlaced (text : List Char) (cursor : Cursor) : Prop where
  source : cursor.source = text
  notBefore : 0 ≤ cursor.position
  notBeyond : cursor.position ≤ text.length
  loc : cursor.loc = .ofOffset text cursor.position.toNat

/-- What holds of the cursor of a source after any calls. -/
structure KeepsPlace (source : String) : Prop where
  isPlaced (calls : List Call) : ((ofString source).afterCalls calls).IsPlaced source.toList
  /-- No call moves the cursor back. -/
  forward (calls : List Call) (call : Call) :
    ((ofString source).afterCalls calls).position ≤
      ((ofString source).afterCalls (calls ++ [call])).position
  /-- Reading a character fails at the end only, and then changes nothing. -/
  pastEnd (calls : List Call) (cursor after : Cursor) (fault : CursorFault)
    (isCursor : (ofString source).afterCalls calls = cursor)
    (fails : cursor.next = (.error fault, after)) :
    fault = .pastEnd cursor.position cursor.loc.line ∧ cursor.position = source.length ∧
      after = cursor
  /-- Where no token starts, the cursor stands at the character that is named, and every further
  search for a token fails in the same way and moves nothing. -/
  illegal (calls : List Call) (c : Char) (loc : Loc) (stopped : Cursor)
    (stops : ((ofString source).afterCalls calls).nextToken =
      (.error (.lexical (.illegalCharacter c loc)), stopped)) :
    stopped.peek 0 = some c ∧ stopped.loc = loc ∧
      ∀ count, (stopped.afterCalls (List.replicate count .nextToken)).nextToken =
        (.error (.lexical (.illegalCharacter c loc)), stopped)
  /-- Behind the last token every further search for one ends in the same way and moves nothing. -/
  finished (calls : List Call) (stopped : Cursor)
    (ends : ((ofString source).afterCalls calls).nextToken = (.ok none, stopped)) :
    ∀ count, (stopped.afterCalls (List.replicate count .nextToken)).nextToken =
      (.ok none, stopped)

@[simp] theorem afterCalls_nil (cursor : Cursor) : cursor.afterCalls [] = cursor := rfl

@[simp] theorem afterCalls_cons (cursor : Cursor) (call : Call) (calls : List Call) :
    cursor.afterCalls (call :: calls) = (cursor.step call).afterCalls calls := rfl

@[simp] theorem afterCalls_concat (cursor : Cursor) (calls : List Call) (call : Call) :
    cursor.afterCalls (calls ++ [call]) = (cursor.afterCalls calls).step call := by
  simp [afterCalls]

/-! ## One call -/

theorem next_facing_nil (text : List Char) (loc : Loc) :
    (facing text ⟨loc, []⟩).next =
      (.error (.pastEnd (facing text ⟨loc, []⟩).position loc.line), facing text ⟨loc, []⟩) := by
  have isAtEnd : ((facing text ⟨loc, []⟩).source.length : Int) ≤
      (facing text ⟨loc, []⟩).position := by
    simp [facing]
  rw [next, if_pos isAtEnd]
  rfl

theorem nextToken_facing (within : reader.rest <:+ text) :
    (facing text reader).nextToken = ofScan text (Lexer.nextToken reader) := by
  rw [← scanToken_eq_nextToken within, scanToken_facing reader within]

theorem skipBlockComment_facing (within : reader.rest <:+ text) :
    ∃ after, (facing text reader).skipBlockComment.2 = facing text after ∧
      reader.LeadsTo after := by
  obtain ⟨loc, rest⟩ := reader
  match rest, within with
  | [], _ =>
    rw [skipBlockComment, next_facing_nil]
    exact ⟨_, rfl, .refl _⟩
  | [c], within =>
    -- The call fails, but has read one character.
    rw [skipBlockComment, next_facing loc within]
    dsimp only
    rw [next_facing_nil]
    exact ⟨_, rfl, Reader.leadsTo_next loc c []⟩
  | c :: d :: body, within =>
    have within' := (List.suffix_cons c _).trans within
    have within'' := (List.suffix_cons d _).trans within'
    have opened : Reader.LeadsTo ⟨loc, c :: d :: body⟩ ⟨(loc.next c).next d, body⟩ :=
      (Reader.leadsTo_next loc c _).trans (Reader.leadsTo_next _ d _)
    rw [skipBlockComment, next_facing loc within]
    dsimp only
    rw [next_facing _ within']
    dsimp only
    rw [afterUnseen_facing within'', reader_facing _ within'', loc_facing]
    cases found : Lexer.afterComment? ((loc.next c).next d) body with
    | some after =>
      exact ⟨after, moveTo_facing within'' after,
        opened.trans (Reader.leadsTo_of_afterComment? found)⟩
    | none => exact ⟨_, moveTo_facing within'' _, opened.trans (Reader.leadsTo_toEnd _)⟩

theorem readSymbol_facing (within : reader.rest <:+ text) :
    ∃ after, (facing text reader).readSymbol.2 = facing text after ∧ reader.LeadsTo after := by
  rw [readSymbol, reader_facing reader within]
  split
  · split
    · next symbol _ =>
      exact ⟨_, moveTo_facing within _, Reader.leadsTo_drop reader symbol.length⟩
    · exact ⟨reader, rfl, .refl reader⟩
  · exact ⟨reader, rfl, .refl reader⟩

/-- Every call of a cursor in a text reads on in the text, or leaves the cursor where it is. -/
theorem step_facing (within : reader.rest <:+ text) (call : Call) :
    ∃ after, (facing text reader).step call = facing text after ∧ reader.LeadsTo after := by
  cases call with
  | atEnd | peek => exact ⟨reader, rfl, .refl reader⟩
  | next =>
    obtain ⟨loc, rest⟩ := reader
    cases rest with
    | nil =>
      rw [step, next_facing_nil]
      exact ⟨_, rfl, .refl _⟩
    | cons c rest =>
      rw [step, next_facing loc within]
      exact ⟨_, rfl, Reader.leadsTo_next loc c rest⟩
  | skipGap =>
    rw [step, skipGap, afterUnseen_facing within, reader_facing reader within, loc_facing]
    cases skipped : Lexer.skipGap reader.loc reader.rest with
    | ok after => exact ⟨after, moveTo_facing within after, Reader.leadsTo_of_skipGap skipped⟩
    | error => exact ⟨_, moveTo_facing within _, Reader.leadsTo_toEnd reader⟩
  | skipLineComment =>
    rw [step, skipLineComment, afterUnseen_facing within, reader_facing reader within]
    exact ⟨_, moveTo_facing within _, Reader.leadsTo_dropWhile Lexer.isInLine reader⟩
  | skipBlockComment => exact skipBlockComment_facing within
  | readSymbol => exact readSymbol_facing within
  | readWord =>
    rw [step, readWord, afterUnseen_facing within, reader_facing reader within]
    exact ⟨_, moveTo_facing within _, Reader.leadsTo_dropWhile Lexer.isWordChar reader⟩
  | nextToken =>
    rw [step, nextToken_facing within]
    refine ⟨_, ?_, Lexer.leadsTo_nextToken reader⟩
    cases Lexer.nextToken reader <;> rfl

/-- Only the end of the text keeps a character from being read, and nothing moves there. -/
theorem pastEnd_of_next (within : reader.rest <:+ text) {cursor : Cursor} {fault : CursorFault}
    (fails : (facing text reader).next = (.error fault, cursor)) :
    fault = .pastEnd (facing text reader).position reader.loc.line ∧ reader.rest = [] ∧
      cursor = facing text reader := by
  obtain ⟨loc, rest⟩ := reader
  cases rest with
  | nil =>
    rw [next_facing_nil] at fails
    obtain ⟨isFault, isCursor⟩ := Prod.mk.inj fails
    exact ⟨(Except.error.inj isFault).symm, rfl, isCursor.symm⟩
  | cons c rest =>
    rw [next_facing loc within] at fails
    cases fails

/-- The cursor is left at the character that starts no token, and finds none there again. -/
theorem stopped_of_illegal (within : reader.rest <:+ text) {stopped : Cursor}
    (stops : (facing text reader).nextToken =
      (.error (.lexical (.illegalCharacter c loc)), stopped)) :
    stopped.peek 0 = some c ∧ stopped.loc = loc ∧
      stopped.nextToken = (.error (.lexical (.illegalCharacter c loc)), stopped) := by
  have within' := (Lexer.leadsTo_nextToken reader).isSuffix.trans within
  rw [nextToken_facing within] at stops
  cases scanned : Lexer.nextToken reader with
  | token | finished => simp [scanned, ofScan] at stops
  | fault fault after =>
    rw [scanned] at stops
    rw [scanned, Lexer.Scan.after] at within'
    obtain ⟨isFault, rfl⟩ := Prod.mk.inj stops
    obtain rfl := CursorFault.lexical.inj (Except.error.inj isFault)
    obtain ⟨isLoc, isFirst, stays⟩ := Lexer.nextToken_of_illegal scanned
    refine ⟨?_, isLoc, ?_⟩
    · rw [← isFirst, List.head?_eq_getElem?]
      exact peek_facing after.loc within' 0
    · rw [nextToken_facing within', stays]
      rfl

theorem stopped_of_finished (within : reader.rest <:+ text) {stopped : Cursor}
    (ends : (facing text reader).nextToken = (.ok none, stopped)) :
    stopped.nextToken = (.ok none, stopped) := by
  have within' := (Lexer.leadsTo_nextToken reader).isSuffix.trans within
  rw [nextToken_facing within] at ends
  cases scanned : Lexer.nextToken reader with
  | token | fault => simp [scanned, ofScan] at ends
  | finished after =>
    rw [scanned] at ends
    rw [scanned, Lexer.Scan.after] at within'
    obtain ⟨-, rfl⟩ := Prod.mk.inj ends
    rw [nextToken_facing within', Lexer.nextToken_of_finished scanned]
    rfl

/-! ## All calls -/

theorem afterCalls_facing (within : reader.rest <:+ text) (calls : List Call) :
    ∃ after, (facing text reader).afterCalls calls = facing text after ∧ reader.LeadsTo after := by
  induction calls generalizing reader with
  | nil => exact ⟨reader, rfl, .refl reader⟩
  | cons call calls ih =>
    obtain ⟨middle, moved, leadsTo⟩ := step_facing within call
    obtain ⟨after, moved', leadsTo'⟩ := ih (leadsTo.isSuffix.trans within)
    rw [afterCalls_cons, moved]
    exact ⟨after, moved', leadsTo.trans leadsTo'⟩

/-- A call that comes back to the same cursor comes back to it every time. -/
theorem nextToken_afterCalls {cursor : Cursor} {answer : Except CursorFault (Option Token)}
    (stays : cursor.nextToken = (answer, cursor)) (count : Nat) :
    (cursor.afterCalls (List.replicate count .nextToken)).nextToken = (answer, cursor) := by
  induction count with
  | zero => exact stays
  | succ count ih =>
    rw [List.replicate_succ, afterCalls_cons, step, stays]
    exact ih

theorem position_facing_le (leadsTo : reader.LeadsTo after) :
    (facing text reader).position ≤ (facing text after).position := by
  have shorter := leadsTo.isSuffix.length_le
  dsimp only [facing]
  omega

/-- Whoever has read on from the start of the text stands in it. -/
theorem isPlaced_facing (leadsTo : Reader.LeadsTo ⟨.start, text⟩ reader) :
    (facing text reader).IsPlaced text := by
  obtain ⟨before, split, moved⟩ := leadsTo
  obtain ⟨loc, rest⟩ := reader
  obtain rfl : text = before ++ rest := split
  obtain rfl : loc = Loc.start.advance before := moved
  constructor
  case source => rfl
  case notBefore =>
    rw [position_facing]
    exact Int.natCast_nonneg before.length
  case notBeyond =>
    rw [position_facing, List.length_append]
    omega
  case loc =>
    rw [position_facing, Int.toNat_natCast]
    exact Loc.advance_eq_ofOffset before rest

/-- The cursor of a source keeps its place under all calls. -/
theorem keepsPlace_calls (source : String) : KeepsPlace source := by
  have reached (calls : List Call) :
      ∃ reader, (ofString source).afterCalls calls = facing source.toList reader ∧
        Reader.LeadsTo ⟨.start, source.toList⟩ reader := by
    rw [ofString_eq_facing]
    exact afterCalls_facing (List.suffix_refl source.toList) calls
  constructor
  case isPlaced =>
    intro calls
    obtain ⟨reader, isCursor, leadsTo⟩ := reached calls
    rw [isCursor]
    exact isPlaced_facing leadsTo
  case forward =>
    intro calls call
    obtain ⟨reader, isCursor, leadsTo⟩ := reached calls
    obtain ⟨after, moved, leadsTo'⟩ := step_facing leadsTo.isSuffix call
    rw [afterCalls_concat, isCursor, moved]
    exact position_facing_le leadsTo'
  case pastEnd =>
    rintro calls cursor after fault rfl fails
    obtain ⟨reader, isCursor, leadsTo⟩ := reached calls
    rw [isCursor] at fails ⊢
    obtain ⟨isFault, atEnd, stays⟩ := pastEnd_of_next leadsTo.isSuffix fails
    refine ⟨isFault, ?_, stays⟩
    rw [← String.length_toList, facing, atEnd]
    exact Int.sub_zero _
  case illegal =>
    intro calls c loc stopped stops
    obtain ⟨reader, isCursor, leadsTo⟩ := reached calls
    rw [isCursor] at stops
    obtain ⟨isFirst, isLoc, stays⟩ := stopped_of_illegal leadsTo.isSuffix stops
    exact ⟨isFirst, isLoc, nextToken_afterCalls stays⟩
  case finished =>
    intro calls stopped ends
    obtain ⟨reader, isCursor, leadsTo⟩ := reached calls
    rw [isCursor] at ends
    exact nextToken_afterCalls (stopped_of_finished leadsTo.isSuffix ends)

/-- Behind the variable no token starts, however often one is sought.  A block comment that is
skipped there stops at the end of the text, behind the one character that it could read. -/
theorem keepsPlace_calls_illegalCharacter :
    let stopped : Cursor := ⟨['x', '\n', '#'], 2, ⟨2, 1⟩⟩
    let ended : Cursor := ⟨['x', '\n', '#'], 3, ⟨2, 2⟩⟩
    ((ofString "x\n#").afterCalls [.nextToken]).nextToken =
        (.error (.lexical (.illegalCharacter '#' ⟨2, 1⟩)), stopped) ∧
      (stopped.peek 0 = some '#' ∧ stopped.loc = ⟨2, 1⟩ ∧
        ∀ count, (stopped.afterCalls (List.replicate count .nextToken)).nextToken =
          (.error (.lexical (.illegalCharacter '#' ⟨2, 1⟩)), stopped)) ∧
      stopped.skipBlockComment = (.error (.pastEnd 3 2), ended) ∧
      ∀ count, (ended.afterCalls (List.replicate count .nextToken)).nextToken =
        (.ok none, ended) := by
  intro stopped ended
  have keepsPlace := keepsPlace_calls "x\n#"
  have stands : (ofString "x\n#").afterCalls [.nextToken] =
      facing ['x', '\n', '#'] ⟨⟨1, 2⟩, ['\n', '#']⟩ := by decide +kernel
  have scanned : Lexer.nextToken ⟨⟨1, 2⟩, ['\n', '#']⟩ =
      .fault (.illegalCharacter '#' ⟨2, 1⟩) ⟨⟨2, 1⟩, ['#']⟩ := by decide +kernel
  have stops : ((ofString "x\n#").afterCalls [.nextToken]).nextToken =
      (.error (.lexical (.illegalCharacter '#' ⟨2, 1⟩)), stopped) := by
    rw [stands, nextToken_facing (by decide), scanned]
    rfl
  have standsAtEnd : (ofString "x\n#").afterCalls [.nextToken, .nextToken, .skipBlockComment] =
      facing ['x', '\n', '#'] ⟨⟨2, 2⟩, []⟩ := by decide +kernel
  have scannedAtEnd : Lexer.nextToken ⟨⟨2, 2⟩, []⟩ = .finished ⟨⟨2, 2⟩, []⟩ := by decide +kernel
  have ends : ((ofString "x\n#").afterCalls
      [.nextToken, .nextToken, .skipBlockComment]).nextToken = (.ok none, ended) := by
    rw [standsAtEnd, nextToken_facing (by decide), scannedAtEnd]
    rfl
  have isStopped : stopped = facing ['x', '\n', '#'] ⟨⟨2, 1⟩, ['#']⟩ := rfl
  have skips : stopped.skipBlockComment = (.error (.pastEnd 3 2), ended) := by
    rw [isStopped, skipBlockComment, next_facing _ (by decide)]
    dsimp only
    rw [next_facing_nil]
    rfl
  exact ⟨stops, keepsPlace.illegal _ _ _ _ stops, skips, keepsPlace.finished _ _ ends⟩

end Cursor

end JamLang
