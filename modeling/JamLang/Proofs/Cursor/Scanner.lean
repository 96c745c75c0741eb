import JamLang.Cursor

/-!
# Reading tokens one character at a time

A token can be read with three steps of a cursor only: to ask whether the text is at its end, to
look at a character ahead and to read one.  The loops that do so stand here step by step.  Outside
of the text a step sees nothing, reads what was not seen, or fails; and where nothing is seen, a
loop goes on, because what is not seen passes every test.

A loop ends, wherever it starts, because reading a character leaves fewer ahead
(`left_lt_of_next`).
-/

namespace JamLang.Cursor

open Lexer (isSpace isWordChar isInLine)

variable {α β : Type} {cursor after : Cursor} {test : Char → Bool} {start : Loc} {c : Char}
  {run : List Char}

/-! ## Steps -/

/-- Goes on from where a step leaves the cursor; a fault ends it. -/
def proceed (step : Except CursorFault α × Cursor)
    (next : α → Cursor → Except CursorFault β × Cursor) : Except CursorFault β × Cursor :=
  match step with
  | (.ok value, cursor) => next value cursor
  | (.error fault, cursor) => (.error fault, cursor)

theorem exists_of_proceed {step : Except CursorFault α × Cursor}
    {next : α → Cursor → Except CursorFault β × Cursor} {value : β}
    (done : proceed step next = (.ok value, after)) :
    ∃ middle between, step = (.ok middle, between) ∧ next middle between = (.ok value, after) := by
  obtain ⟨result, between⟩ := step
  cases result with
  | ok middle => exact ⟨middle, between, rfl, done⟩
  | error fault => simp [proceed] at done

def left (cursor : Cursor) : Nat :=
  (cursor.source.length - cursor.position).toNat

/-- A character is only read before the end. -/
theorem moved_of_next (read : cursor.next = (.ok c, after)) :
    after.source = cursor.source ∧ after.position = cursor.position + 1 ∧
      cursor.position < cursor.source.length := by
  simp only [next] at read
  split at read
  · simp at read
  · -- Before the end a character is read, from the end of the text if the position is negative.
    next notAtEnd =>
    have inside : cursor.position < cursor.source.length := by omega
    split at read
    · split at read
      · obtain ⟨-, rfl⟩ := Prod.mk.inj read
        exact ⟨rfl, rfl, inside⟩
      · simp at read
    · split at read
      · split at read
        · obtain ⟨-, rfl⟩ := Prod.mk.inj read
          exact ⟨rfl, rfl, inside⟩
        · simp at read
      · simp at read

theorem left_lt_of_next (read : cursor.next = (.ok c, after)) : after.left < cursor.left := by
  obtain ⟨source, position, inside⟩ := moved_of_next read
  unfold left
  rw [source, position]
  omega

/-! ## Loops

A loop calls itself only on a cursor that was read from; its equation, without the evidence for
that, is one turn of the loop. -/

/-- Reads characters as long as the next one passes the test.  One that is not seen passes. -/
def scanWhile (test : Char → Bool) (cursor : Cursor) : Except CursorFault (List Char) × Cursor :=
  if cursor.atEnd then (.ok [], cursor)
  else if (cursor.peek 0).all test then
    match _read : cursor.next with
    | (.ok c, after) => proceed (scanWhile test after) fun more last => (.ok (c :: more), last)
    | (.error fault, after) => (.error fault, after)
  else (.ok [], cursor)
termination_by cursor.left
decreasing_by exact left_lt_of_next _read

theorem scanWhile_eq (test : Char → Bool) (cursor : Cursor) :
    cursor.scanWhile test =
      if cursor.atEnd then (.ok [], cursor)
      else if (cursor.peek 0).all test then
        proceed cursor.next fun c after =>
          proceed (after.scanWhile test) fun more last => (.ok (c :: more), last)
      else (.ok [], cursor) := by
  rw [scanWhile]
  unfold proceed
  split
  · rfl
  · split
    · split <;> simp only [*]
    · rfl

/-- Reads characters up to the end mark of a block comment that starts at the given location. -/
def scanBody (start : Loc) (cursor : Cursor) : Except CursorFault Unit × Cursor :=
  if cursor.atEnd then (.error (.lexical (.unterminatedComment start)), cursor)
  else if cursor.peek 0 = some '*' ∧ cursor.peek 1 = some '/' then
    proceed cursor.next fun _ cursor => proceed cursor.next fun _ cursor => (.ok (), cursor)
  else
    match _read : cursor.next with
    | (.ok _, after) => scanBody start after
    | (.error fault, after) => (.error fault, after)
termination_by cursor.left
decreasing_by exact left_lt_of_next _read

theorem scanBody_eq (start : Loc) (cursor : Cursor) :
    cursor.scanBody start =
      if cursor.atEnd then (.error (.lexical (.unterminatedComment start)), cursor)
      else if cursor.peek 0 = some '*' ∧ cursor.peek 1 = some '/' then
        proceed cursor.next fun _ cursor => proceed cursor.next fun _ cursor => (.ok (), cursor)
      else proceed cursor.next fun _ after => after.scanBody start := by
  rw [scanBody]
  unfold proceed
  split
  · rfl
  · split
    · rfl
    · split <;> simp only [*]

/-- Skips a block comment, whose first two characters were seen. -/
def scanBlock (cursor : Cursor) : Except CursorFault Unit × Cursor :=
  proceed cursor.next fun _ body => proceed body.next fun _ body => body.scanBody cursor.loc

theorem left_le_of_scanWhile (scanned : scanWhile test cursor = (.ok run, after)) :
    after.left ≤ cursor.left := by
  fun_induction scanWhile test cursor generalizing run with
  | case1 | case4 =>
    obtain ⟨-, rfl⟩ := Prod.mk.inj scanned
    exact Nat.le_refl _
  | case2 cursor _ _ c between read ih =>
    obtain ⟨more, last, scannedMore, done⟩ := exists_of_proceed scanned
    obtain ⟨-, rfl⟩ := Prod.mk.inj done
    exact Nat.le_of_lt (Nat.lt_of_le_of_lt (ih scannedMore) (left_lt_of_next read))
  | case3 => simp at scanned

theorem left_lt_of_scanWhile (notAtEnd : cursor.atEnd ≠ true)
    (passes : (cursor.peek 0).all test = true)
    (scanned : scanWhile test cursor = (.ok run, after)) : after.left < cursor.left := by
  rw [scanWhile_eq, if_neg notAtEnd, if_pos passes] at scanned
  obtain ⟨_, between, read, scanned⟩ := exists_of_proceed scanned
  obtain ⟨_, last, scannedMore, done⟩ := exists_of_proceed scanned
  obtain ⟨-, rfl⟩ := Prod.mk.inj done
  exact Nat.lt_of_le_of_lt (left_le_of_scanWhile scannedMore) (left_lt_of_next read)

theorem left_le_of_scanBody (scanned : scanBody start cursor = (.ok (), after)) :
    after.left ≤ cursor.left := by
  fun_induction scanBody start cursor with
  | case1 | case4 => simp at scanned
  | case2 cursor =>
    obtain ⟨_, between, read, scanned⟩ := exists_of_proceed scanned
    obtain ⟨_, last, read', done⟩ := exists_of_proceed scanned
    obtain ⟨-, rfl⟩ := Prod.mk.inj done
    exact Nat.le_of_lt (Nat.lt_trans (left_lt_of_next read') (left_lt_of_next read))
  | case3 cursor _ _ _ between read ih =>
    exact Nat.le_of_lt (Nat.lt_of_le_of_lt (ih scanned) (left_lt_of_next read))

theorem left_lt_of_scanBlock (scanned : scanBlock cursor = (.ok (), after)) :
    after.left < cursor.left := by
  obtain ⟨_, second, read, scanned⟩ := exists_of_proceed scanned
  obtain ⟨_, body, read', scanned⟩ := exists_of_proceed scanned
  exact Nat.lt_of_le_of_lt (left_le_of_scanBody scanned)
    (Nat.lt_trans (left_lt_of_next read') (left_lt_of_next read))

/-- Skips white space and comments. -/
def scanGap (cursor : Cursor) : Except CursorFault Unit × Cursor :=
  if _notAtEnd : ¬ cursor.atEnd then
    if (cursor.peek 0).all isSpace then
      match _read : cursor.next with
      | (.ok _, after) => scanGap after
      | (.error fault, after) => (.error fault, after)
    else if _opens : cursor.peek 0 = some '/' ∧ cursor.peek 1 = some '/' then
      match _scanned : cursor.scanWhile isInLine with
      | (.ok _, after) => scanGap after
      | (.error fault, after) => (.error fault, after)
    else if cursor.peek 0 = some '/' ∧ cursor.peek 1 = some '*' then
      match _scanned : cursor.scanBlock with
      | (.ok _, after) => scanGap after
      | (.error fault, after) => (.error fault, after)
    else (.ok (), cursor)
  else (.ok (), cursor)
termination_by cursor.left
decreasing_by
  · exact left_lt_of_next _read
  · -- The slash that was seen is a part of the line, so the line is not empty.
    refine left_lt_of_scanWhile _notAtEnd ?_ _scanned
    rw [_opens.1]
    rfl
  · exact left_lt_of_scanBlock _scanned

theorem scanGap_eq (cursor : Cursor) :
    cursor.scanGap =
      if ¬ cursor.atEnd then
        if (cursor.peek 0).all isSpace then proceed cursor.next fun _ after => after.scanGap
        else if cursor.peek 0 = some '/' ∧ cursor.peek 1 = some '/' then
          proceed (cursor.scanWhile isInLine) fun _ after => after.scanGap
        else if cursor.peek 0 = some '/' ∧ cursor.peek 1 = some '*' then
          proceed cursor.scanBlock fun _ after => after.scanGap
        else (.ok (), cursor)
      else (.ok (), cursor) := by
  rw [scanGap]
  unfold proceed
  split
  · split
    · split <;> simp only [*]
    · split
      · split <;> simp only [*]
      · split
        · split <;> simp only [*]
        · rfl
  · rfl

/-- The longest symbol among the texts that go on from a candidate, or else the best one so far. -/
def seekSymbol (cursor : Cursor) (candidate : List Char) (best : Option (TokenKind × List Char)) :
    List Nat → Option (TokenKind × List Char)
  | [] => best
  | offset :: offsets =>
    match cursor.peek offset with
    | none => best
    | some c =>
      let candidate := candidate ++ [c]
      match Vocabulary.symbolKind? (String.ofList candidate) with
      | some kind => cursor.seekSymbol candidate (some (kind, candidate)) offsets
      | none => cursor.seekSymbol candidate best offsets

/-- Reads so many characters. -/
def scanMany (cursor : Cursor) : Nat → Except CursorFault Unit × Cursor
  | 0 => (.ok (), cursor)
  | count + 1 => proceed cursor.next fun _ after => after.scanMany count

/-- Takes the token that starts here, where something is still to be read. -/
def scanLexeme (cursor : Cursor) : Except CursorFault (Option Token) × Cursor :=
  let number := proceed (cursor.scanWhile Char.isDigit) fun digits after =>
    (.ok (some ⟨.integer, String.ofList digits, cursor.loc⟩), after)
  match cursor.peek 0 with
  -- What is not seen passes the test for digits as well.
  | none => number
  | some c =>
    if Text.isLetter c then
      proceed (cursor.scanWhile isWordChar) fun word after =>
        let word := String.ofList word
        (.ok (some ⟨Vocabulary.wordKind word, word, cursor.loc⟩), after)
    else if c.isDigit then number
    else
      match cursor.seekSymbol [] none [0, 1] with
      | some (kind, symbol) =>
        proceed (cursor.scanMany symbol.length) fun _ after =>
          (.ok (some ⟨kind, String.ofList symbol, cursor.loc⟩), after)
      | none => (.error (.lexical (.illegalCharacter c cursor.loc)), cursor)

/-- Skips a gap and reads the token after it; none at the end of the text. -/
def scanToken (cursor : Cursor) : Except CursorFault (Option Token) × Cursor :=
  proceed cursor.scanGap fun _ cursor =>
    if cursor.atEnd then (.ok none, cursor) else cursor.scanLexeme

/-- Reading tokens from the cursor gives these, and then the end or a fault. -/
inductive Scans : Cursor → List Token → Option CursorFault → Prop where
  | token {cursor after : Cursor} {token : Token} {tokens : List Token}
      {fault : Option CursorFault} (scanned : cursor.scanToken = (.ok (some token), after))
      (more : Scans after tokens fault) : Scans cursor (token :: tokens) fault
  | finished {cursor after : Cursor} (scanned : cursor.scanToken = (.ok none, after)) :
      Scans cursor [] none
  | fault {cursor after : Cursor} {fault : CursorFault}
      (scanned : cursor.scanToken = (.error fault, after)) : Scans cursor [] (some fault)

end JamLang.Cursor
