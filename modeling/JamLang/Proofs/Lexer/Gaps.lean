import JamLang.Lexer
import JamLang.Proofs.Text.Run

/-!
# Gaps

What may stand between two tokens, said without saying how it is skipped: blanks, line comments and
block comments, in any number and order.  A line comment reaches up to the next line feed or the
end, a block comment up to the first end mark behind its opening.  So whether a text is a gap also
depends on what comes next, and a gap is always spoken of in front of the rest of its text.

Whatever is a gap is skipped (`skipGap_append`), and skipping stops behind a gap that does not go
on, or at a comment that is never closed (`gapEnd_skipGap`).
-/

namespace JamLang.Lexer

open Text (LongestRun longestRun_takeWhile)

variable {c : Char} {loc : Loc} {text body gap rest : List Char} {after : Reader}

/-! ## The end of a block comment -/

/-- Somewhere in the text stands the mark that ends a block comment. -/
def HoldsEndMark (text : List Char) : Prop :=
  ['*', '/'] <:+: text

theorem not_holdsEndMark_nil : ¬ HoldsEndMark [] := by
  intro holds
  exact absurd (List.eq_nil_of_infix_nil holds) (List.cons_ne_nil _ _)

theorem not_holdsEndMark_cons :
    ¬ HoldsEndMark (c :: text) ↔
      ¬ (c = '*' ∧ text.head? = some '/') ∧ ¬ HoldsEndMark text := by
  have starts : ['*', '/'] <+: c :: text ↔ c = '*' ∧ text.head? = some '/' := by
    cases text with
    | nil => simp
    | cons d text => simp [List.cons_prefix_cons, eq_comm]
  rw [HoldsEndMark, List.infix_cons_iff, starts, not_or]
  rfl

/-- A comment that is closed ends behind its first end mark. -/
theorem afterComment?_append (isOpen : ¬ HoldsEndMark body) (loc : Loc) (rest : List Char) :
    afterComment? loc (body ++ '*' :: '/' :: rest) =
      some ⟨loc.advance (body ++ ['*', '/']), rest⟩ := by
  induction body generalizing loc with
  | nil => rfl
  | cons c body ih =>
    obtain ⟨notMark, isOpen⟩ := not_holdsEndMark_cons.1 isOpen
    rw [List.cons_append, afterComment?, ih isOpen]
    · rfl
    · -- The mark is not found early: it would start in the body, or with its own star.
      rintro tail rfl starts
      cases body with
      | nil => simp at starts
      | cons d body =>
        obtain ⟨rfl, -⟩ := List.cons.inj starts
        exact notMark ⟨rfl, rfl⟩

theorem afterComment?_of_not_holdsEndMark (isOpen : ¬ HoldsEndMark text) (loc : Loc) :
    afterComment? loc text = none := by
  induction text generalizing loc with
  | nil => rfl
  | cons c text ih =>
    obtain ⟨notMark, isOpen⟩ := not_holdsEndMark_cons.1 isOpen
    rw [afterComment?, ih isOpen]
    rintro tail rfl rfl
    exact notMark ⟨rfl, rfl⟩

/-- What is found is the first end mark. -/
theorem exists_of_afterComment? (found : afterComment? loc text = some after) :
    ∃ body, text = body ++ '*' :: '/' :: after.rest ∧ ¬ HoldsEndMark body ∧
      after.loc = loc.advance (body ++ ['*', '/']) := by
  fun_induction afterComment? loc text with
  | case1 => simp at found
  | case2 =>
    obtain rfl := Option.some.inj found
    exact ⟨[], rfl, not_holdsEndMark_nil, rfl⟩
  | case3 loc c rest notMark ih =>
    obtain ⟨body, rfl, isOpen, isLoc⟩ := ih found
    refine ⟨c :: body, rfl, not_holdsEndMark_cons.2 ⟨?_, isOpen⟩, isLoc⟩
    rintro ⟨rfl, starts⟩
    cases body with
    | nil => simp at starts
    | cons d body =>
      obtain rfl : d = '/' := Option.some.inj starts
      exact notMark _ rfl rfl

theorem not_holdsEndMark_of_afterComment? (notFound : afterComment? loc text = none) :
    ¬ HoldsEndMark text := by
  fun_induction afterComment? loc text with
  | case1 => exact not_holdsEndMark_nil
  | case2 => simp at notFound
  | case3 loc c rest notMark ih =>
    refine not_holdsEndMark_cons.2 ⟨?_, ih notFound⟩
    rintro ⟨rfl, starts⟩
    obtain ⟨tail, rfl⟩ := List.head?_eq_some_iff.1 starts
    exact notMark _ rfl rfl

/-! ## Gaps -/

/-- The text stands for nothing in front of the rest: it is made of blanks and comments. -/
inductive IsGap : (gap rest : List Char) → Prop where
  | nil {rest : List Char} : IsGap [] rest
  | blank {c : Char} {gap rest : List Char} (isSpace : isSpace c = true) (isGap : IsGap gap rest) :
      IsGap (c :: gap) rest
  /-- Up to a line feed or the end, neither of which is a part of it. -/
  | lineComment {body gap rest : List Char} (isLine : LongestRun isInLine body (gap ++ rest))
      (isGap : IsGap gap rest) : IsGap ('/' :: '/' :: (body ++ gap)) rest
  /-- Up to the first end mark behind the opening, which is a part of it. -/
  | blockComment {body gap rest : List Char} (isOpen : ¬ HoldsEndMark body)
      (isGap : IsGap gap rest) : IsGap ('/' :: '*' :: (body ++ '*' :: '/' :: gap)) rest

/-- The text starts with a blank or opens a comment. -/
def StartsGap (text : List Char) : Prop :=
  (∃ c ∈ text.head?, isSpace c = true) ∨ ['/', '/'] <+: text ∨ ['/', '*'] <+: text

/-- The text opens a block comment that is never closed. -/
def StartsUnclosed (text : List Char) : Prop :=
  ∃ body, text = '/' :: '*' :: body ∧ ¬ HoldsEndMark body

theorem not_startsGap_nil : ¬ StartsGap [] := by
  simp [StartsGap]

theorem not_startsGap_cons :
    ¬ StartsGap (c :: text) ↔
      isSpace c = false ∧ (c = '/' → text.head? ≠ some '/' ∧ text.head? ≠ some '*') := by
  have opens (mark : Char) : ['/', mark] <+: c :: text ↔ c = '/' ∧ text.head? = some mark := by
    cases text with
    | nil => simp
    | cons d text => simp [List.cons_prefix_cons, eq_comm]
  simp only [StartsGap, opens, not_or, not_and, List.head?_cons, Option.mem_def, Option.some.injEq,
    exists_eq_left', Bool.not_eq_true]
  exact and_congr_right fun _ => ⟨fun h same => ⟨h.1 same, h.2 same⟩,
    fun h => ⟨fun same => (h same).1, fun same => (h same).2⟩⟩

/-! ## Skipping what is a gap -/

theorem skipGap_blank (isBlank : isSpace c = true) (loc : Loc) (text : List Char) :
    skipGap loc (c :: text) = skipGap (loc.next c) text := by
  rw [skipGap, if_pos isBlank]
  · rintro rest rfl
    exact absurd isBlank (by decide)
  · rintro rest rfl
    exact absurd isBlank (by decide)

theorem skipGap_lineComment (isLine : LongestRun isInLine body rest) (loc : Loc) :
    skipGap loc ('/' :: '/' :: (body ++ rest)) =
      skipGap (loc.advance ('/' :: '/' :: body)) rest := by
  rw [skipGap, isLine.takeWhile, isLine.dropWhile]

theorem skipGap_blockComment (isOpen : ¬ HoldsEndMark body) (loc : Loc) (rest : List Char) :
    skipGap loc ('/' :: '*' :: (body ++ '*' :: '/' :: rest)) =
      skipGap (loc.advance ('/' :: '*' :: (body ++ ['*', '/']))) rest := by
  have found := afterComment?_append isOpen ((loc.next '/').next '*') rest
  rw [skipGap]
  split
  · next after found' =>
    obtain rfl := Option.some.inj (found.symm.trans found')
    rfl
  · next notFound => exact absurd (found.symm.trans notFound) (by simp)

/-- A gap is skipped, whatever its rest is. -/
theorem skipGap_append (isGap : IsGap gap rest) (loc : Loc) :
    skipGap loc (gap ++ rest) = skipGap (loc.advance gap) rest := by
  induction isGap generalizing loc with
  | nil => rfl
  | blank isSpace _ ih =>
    rw [List.cons_append, skipGap_blank isSpace, ih]
    rfl
  | @lineComment body gap rest isLine _ ih =>
    have same : '/' :: '/' :: (body ++ gap) ++ rest = '/' :: '/' :: (body ++ (gap ++ rest)) := by
      simp
    rw [same, skipGap_lineComment isLine, ih, ← Loc.advance_append]
    rfl
  | @blockComment body gap rest isOpen _ ih =>
    have same : '/' :: '*' :: (body ++ '*' :: '/' :: gap) ++ rest =
        '/' :: '*' :: (body ++ '*' :: '/' :: (gap ++ rest)) := by simp
    rw [same, skipGap_blockComment isOpen, ih, ← Loc.advance_append]
    simp

theorem skipGap_of_not_startsGap (stops : ¬ StartsGap text) (loc : Loc) :
    skipGap loc text = .ok ⟨loc, text⟩ := by
  cases text with
  | nil => rw [skipGap]
  | cons c text =>
    obtain ⟨notSpace, notComment⟩ := not_startsGap_cons.1 stops
    rw [skipGap, if_neg (by simp [notSpace])]
    · rintro rest rfl rfl
      exact (notComment rfl).1 rfl
    · rintro rest rfl rfl
      exact (notComment rfl).2 rfl

theorem skipGap_of_startsUnclosed (unclosed : StartsUnclosed text) (loc : Loc) :
    skipGap loc text = .error (.unterminatedComment loc) := by
  obtain ⟨body, rfl, isOpen⟩ := unclosed
  have notFound := afterComment?_of_not_holdsEndMark isOpen ((loc.next '/').next '*')
  rw [skipGap]
  split
  · next found => exact absurd (notFound.symm.trans found) (by simp)
  · rfl

/-! ## What is skipped is a gap -/

/-- How skipping a gap may end. -/
inductive GapEnd (loc : Loc) (text : List Char) : Except LexicalFault Reader → Prop where
  /-- Behind a gap that does not go on. -/
  | stopped {gap rest : List Char} (split : text = gap ++ rest) (isGap : IsGap gap rest)
      (stops : ¬ StartsGap rest) : GapEnd loc text (.ok ⟨loc.advance gap, rest⟩)
  /-- At a comment that is never closed, behind a gap. -/
  | unclosed {gap rest : List Char} (split : text = gap ++ rest) (isGap : IsGap gap rest)
      (unclosed : StartsUnclosed rest) :
      GapEnd loc text (.error (.unterminatedComment (loc.advance gap)))

/-- A piece in front of a text, with which every gap of the text is a gap again. -/
theorem GapEnd.append {ending : Except LexicalFault Reader}
    (goesOn : ∀ gap rest, text = gap ++ rest → IsGap gap rest → IsGap (body ++ gap) rest)
    (gapEnd : GapEnd (loc.advance body) text ending) : GapEnd loc (body ++ text) ending := by
  cases gapEnd with
  | @stopped gap rest split isGap stops =>
    rw [← Loc.advance_append]
    exact .stopped (by rw [split, List.append_assoc]) (goesOn gap rest split isGap) stops
  | @unclosed gap rest split isGap unclosed =>
    rw [← Loc.advance_append]
    exact .unclosed (by rw [split, List.append_assoc]) (goesOn gap rest split isGap) unclosed

theorem gapEnd_skipGap (loc : Loc) (text : List Char) : GapEnd loc text (skipGap loc text) := by
  fun_induction skipGap loc text with
  | case1 loc => exact .stopped rfl .nil not_startsGap_nil
  | case2 loc rest ih =>
    have isLine := longestRun_takeWhile isInLine rest
    have split : '/' :: '/' :: rest =
        '/' :: '/' :: rest.takeWhile isInLine ++ rest.dropWhile isInLine := by
      simp [List.takeWhile_append_dropWhile]
    rw [split]
    exact ih.append fun gap left isRest isGap => .lineComment (isRest ▸ isLine) isGap
  | case3 loc rest closed found ih =>
    obtain ⟨closedLoc, closedRest⟩ := closed
    obtain ⟨body, rfl, isOpen, rfl⟩ := exists_of_afterComment? found
    have split : '/' :: '*' :: (body ++ '*' :: '/' :: closedRest) =
        '/' :: '*' :: (body ++ ['*', '/']) ++ closedRest := by simp
    rw [split]
    refine GapEnd.append (fun gap left _ isGap => ?_) ih
    simpa using IsGap.blockComment isOpen isGap
  | case4 loc rest notFound =>
    exact .unclosed rfl .nil ⟨rest, rfl, not_holdsEndMark_of_afterComment? notFound⟩
  | case5 loc c rest _ _ isSpace ih =>
    have prepends : GapEnd loc ([c] ++ rest) (skipGap (loc.next c) rest) :=
      GapEnd.append (fun _ _ _ isGap => .blank isSpace isGap) ih
    exact prepends
  | case6 loc c rest notLine notBlock notSpace =>
    refine .stopped rfl .nil (not_startsGap_cons.2 ⟨by simpa using notSpace, ?_⟩)
    rintro rfl
    constructor
    · intro starts
      obtain ⟨tail, rfl⟩ := List.head?_eq_some_iff.1 starts
      exact notLine _ rfl rfl
    · intro starts
      obtain ⟨tail, rfl⟩ := List.head?_eq_some_iff.1 starts
      exact notBlock _ rfl rfl

end JamLang.Lexer
