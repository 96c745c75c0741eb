import JamLang.Loc

/-!
# Locations along a text

Going through a text, the location only ever moves on: to a later line, or to a later column of the
same line.  So two places of one text have different locations.
-/

namespace JamLang.Loc

/-- The location comes before another one, as places in a text do. -/
def Before (loc other : Loc) : Prop :=
  loc.line < other.line ∨ loc.line = other.line ∧ loc.column < other.column

theorem Before.trans {first second third : Loc} (one : first.Before second)
    (two : second.Before third) : first.Before third := by
  unfold Before at *
  omega

theorem not_before_self (loc : Loc) : ¬ loc.Before loc := by
  unfold Before
  omega

theorem before_next (loc : Loc) (c : Char) : loc.Before (loc.next c) := by
  unfold Before next
  split
  · exact .inl (Int.lt_succ _)
  · exact .inr ⟨rfl, Int.lt_succ _⟩

theorem before_advance (loc : Loc) {text : List Char} (notEmpty : text ≠ []) :
    loc.Before (loc.advance text) := by
  induction text generalizing loc with
  | nil => exact absurd rfl notEmpty
  | cons c text ih =>
    have first := loc.before_next c
    cases text with
    | nil => exact first
    | cons d text => exact first.trans (ih _ (List.cons_ne_nil d text))

/-- A text can be cut in one place only for the second part to start at a given location. -/
theorem append_inj_of_advance_eq {loc : Loc} {first second first' second' : List Char}
    (same : first ++ second = first' ++ second')
    (sameLoc : loc.advance first = loc.advance first') : first = first' := by
  have noMore (text more : List Char) (sameLoc : loc.advance text = loc.advance (text ++ more)) :
      more = [] := by
    cases more with
    | nil => rfl
    | cons c more =>
      have before := (loc.advance text).before_advance (List.cons_ne_nil c more)
      rw [← advance_append, ← sameLoc] at before
      exact absurd before (not_before_self _)
  rcases List.append_eq_append_iff.1 same with ⟨more, rfl, -⟩ | ⟨more, rfl, -⟩
  · rw [noMore first more sameLoc, List.append_nil]
  · rw [noMore first' more sameLoc.symm, List.append_nil]

/-- A line or a column grows by at most one with each character, and stays positive. -/
theorem bounds_advance (loc : Loc) (text : List Char) (atLine : 1 ≤ loc.line)
    (atColumn : 1 ≤ loc.column) :
    1 ≤ (loc.advance text).line ∧ (loc.advance text).line ≤ loc.line + text.length ∧
      1 ≤ (loc.advance text).column ∧ (loc.advance text).column ≤ loc.column + text.length := by
  induction text generalizing loc with
  | nil => simp [atLine, atColumn]
  | cons c text ih =>
    have step : 1 ≤ (loc.next c).line ∧ (loc.next c).line ≤ loc.line + 1 ∧
        1 ≤ (loc.next c).column ∧ (loc.next c).column ≤ loc.column + 1 := by
      unfold next
      split <;> dsimp only <;> omega
    have rest := ih (loc.next c) step.1 step.2.2.1
    rw [advance_cons, List.length_cons]
    omega

/-! ## Lines further down -/

/-- The location in the same column, as many lines further down. -/
def down (loc : Loc) (lines : Nat) : Loc :=
  ⟨loc.line + lines, loc.column⟩

theorem next_down (loc : Loc) (lines : Nat) (c : Char) :
    (loc.down lines).next c = (loc.next c).down lines := by
  unfold next down
  split
  · have same : loc.line + lines + 1 = loc.line + 1 + lines := by omega
    exact congrArg (Loc.mk · 1) same
  · rfl

/-- A text that starts further down ends further down. -/
theorem advance_down (loc : Loc) (lines : Nat) (text : List Char) :
    (loc.down lines).advance text = (loc.advance text).down lines := by
  induction text generalizing loc with
  | nil => rfl
  | cons c text ih => rw [advance_cons, next_down, ih, advance_cons]

theorem line_advance (loc : Loc) (text : List Char) :
    (loc.advance text).line = loc.line + text.count '\n' := by
  induction text generalizing loc with
  | nil => simp
  | cons c text ih =>
    rw [advance_cons, ih, List.count_cons]
    unfold next
    split
    · next isFeed =>
      subst isFeed
      simp only [beq_self_eq_true, if_true]
      omega
    · next notFeed => simp [notFeed]

/-- Behind a text and a line feed starts the line below all lines of the text. -/
theorem next_advance_start (text : List Char) :
    (start.advance text).next '\n' = start.down (1 + text.count '\n') := by
  have line := line_advance start text
  have isLine : (start.advance text).line + 1 = start.line + ((1 + text.count '\n' : Nat) : Int) := by
    omega
  exact congrArg (Loc.mk · 1) isLine

end JamLang.Loc
