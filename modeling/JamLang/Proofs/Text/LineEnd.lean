import JamLang.Proofs.Text.Location
import JamLang.Text.LineEnd

/-!
# Carriage returns at the ends of lines

A carriage return that stands directly before a line feed may be left out of a text: the line feed
starts the next line at its first column, whatever the column was before.  A text in which every
carriage return stands there knows no other line ends, and folding its line ends is leaving these
characters out.
-/

namespace JamLang

namespace Text

variable {c : Char} {text first second : List Char}

/-- The text without the carriage returns that stand directly before a line feed. -/
def dropReturns : List Char → List Char
  | [] => []
  | c :: rest =>
    if c = '\r' ∧ rest.head? = some '\n' then dropReturns rest else c :: dropReturns rest

def withoutReturns (text : String) : String :=
  String.ofList (dropReturns text.toList)

/-- Every carriage return of the text stands directly before a line feed. -/
def ReturnsEndLines (text : List Char) : Prop :=
  ∀ before after, text = before ++ '\r' :: after → after.head? = some '\n'

theorem returnsEndLines_nil : ReturnsEndLines [] := by
  simp [ReturnsEndLines]

theorem returnsEndLines_cons :
    ReturnsEndLines (c :: text) ↔
      (c = '\r' → text.head? = some '\n') ∧ ReturnsEndLines text := by
  constructor
  · intro endLines
    refine ⟨?_, ?_⟩
    · rintro rfl
      exact endLines [] text rfl
    · rintro before after rfl
      exact endLines (c :: before) after rfl
  · rintro ⟨isFirst, endLines⟩ before after split
    cases before with
    | nil =>
      obtain ⟨rfl, rfl⟩ := List.cons.inj split
      exact isFirst rfl
    | cons d before => exact endLines before after (List.cons.inj split).2

theorem dropReturns_return (starts : text.head? = some '\n') :
    dropReturns ('\r' :: text) = dropReturns text :=
  if_pos ⟨rfl, starts⟩

theorem dropReturns_cons (other : c = '\r' → text.head? ≠ some '\n') :
    dropReturns (c :: text) = c :: dropReturns text :=
  if_neg fun isReturn => other isReturn.1 isReturn.2

theorem dropReturns_cons_of_ne (other : c ≠ '\r') (text : List Char) :
    dropReturns (c :: text) = c :: dropReturns text :=
  dropReturns_cons fun isReturn => absurd isReturn other

/-- The text starts as before, or with the line feed that a carriage return stood before. -/
theorem head?_dropReturns (text : List Char) :
    (dropReturns text).head? = text.head? ∨ (dropReturns text).head? = some '\n' := by
  cases text with
  | nil => exact .inl rfl
  | cons c text =>
    by_cases isReturn : c = '\r' ∧ text.head? = some '\n'
    · obtain ⟨rfl, starts⟩ := isReturn
      obtain ⟨rest, rfl⟩ := List.head?_eq_some_iff.1 starts
      rw [dropReturns_return starts, dropReturns_cons_of_ne (by decide)]
      exact .inr rfl
    · rw [dropReturns_cons (not_and.1 isReturn)]
      exact .inl rfl

/-- A text may be cut anywhere but before a line feed. -/
theorem dropReturns_append (apart : second.head? ≠ some '\n') (first : List Char) :
    dropReturns (first ++ second) = dropReturns first ++ dropReturns second := by
  induction first with
  | nil => rfl
  | cons c first ih =>
    -- Where the first text ends no line feed follows, so what is behind the cut does not matter.
    have sameHead : (first ++ second).head? = some '\n' ↔ first.head? = some '\n' := by
      cases first with
      | nil => exact ⟨fun starts => absurd starts apart, nofun⟩
      | cons d first => exact Iff.rfl
    by_cases isReturn : c = '\r' ∧ first.head? = some '\n'
    · obtain ⟨rfl, starts⟩ := isReturn
      rw [List.cons_append, dropReturns_return (sameHead.2 starts), ih, dropReturns_return starts]
    · have other : c = '\r' → first.head? ≠ some '\n' := not_and.1 isReturn
      rw [List.cons_append, dropReturns_cons fun same => mt sameHead.1 (other same), ih,
        dropReturns_cons other, List.cons_append]

theorem dropReturns_append_of_not_mem (noReturn : '\r' ∉ first) (second : List Char) :
    dropReturns (first ++ second) = first ++ dropReturns second := by
  induction first with
  | nil => rfl
  | cons c first ih =>
    obtain ⟨other, noReturn⟩ := List.ne_and_not_mem_of_not_mem_cons noReturn
    rw [List.cons_append, dropReturns_cons_of_ne other.symm, ih noReturn, List.cons_append]

/-- Of the part of a line, no more than its last character is left out. -/
theorem exists_dropReturns_append {test : Char → Bool} (passes : ∀ c ∈ first, test c = true)
    (second : List Char) :
    ∃ kept, dropReturns (first ++ second) = kept ++ dropReturns second ∧
      ∀ c ∈ kept, test c = true := by
  induction first with
  | nil => exact ⟨[], rfl, nofun⟩
  | cons c first ih =>
    obtain ⟨isPassed, passes⟩ := List.forall_mem_cons.1 passes
    obtain ⟨kept, split, keptPasses⟩ := ih passes
    by_cases isReturn : c = '\r' ∧ (first ++ second).head? = some '\n'
    · obtain ⟨rfl, starts⟩ := isReturn
      exact ⟨kept, by rw [List.cons_append, dropReturns_return starts, split], keptPasses⟩
    · refine ⟨c :: kept, ?_, List.forall_mem_cons.2 ⟨isPassed, keptPasses⟩⟩
      rw [List.cons_append, dropReturns_cons (not_and.1 isReturn), split, List.cons_append]

/-- Where each carriage return stands before a line feed, leaving it out folds the two. -/
theorem foldLineEnds_eq_dropReturns (endLines : ReturnsEndLines text) :
    foldLineEnds text = dropReturns text := by
  fun_induction foldLineEnds text with
  | case1 rest ih =>
    obtain ⟨-, endLines⟩ := returnsEndLines_cons.1 endLines
    rw [ih (returnsEndLines_cons.1 endLines).2, dropReturns_return rfl,
      dropReturns_cons_of_ne (by decide)]
  | case2 rest noFeed _ =>
    obtain ⟨after, rfl⟩ := List.head?_eq_some_iff.1 ((returnsEndLines_cons.1 endLines).1 rfl)
    exact (noFeed after rfl).elim
  | case3 c rest _ other ih =>
    rw [ih (returnsEndLines_cons.1 endLines).2, dropReturns_cons_of_ne other]
  | case4 => rfl

end Text

/-- A line feed starts the same line whether a carriage return stands before it or not. -/
theorem Loc.advance_dropReturns (loc : Loc) (text : List Char) :
    loc.advance (Text.dropReturns text) = loc.advance text := by
  induction text generalizing loc with
  | nil => rfl
  | cons c text ih =>
    by_cases isReturn : c = '\r' ∧ text.head? = some '\n'
    · obtain ⟨rfl, starts⟩ := isReturn
      obtain ⟨rest, rfl⟩ := List.head?_eq_some_iff.1 starts
      have sameLine : (loc.next '\r').next '\n' = loc.next '\n' := by simp [next]
      rw [Text.dropReturns_return starts, ih, advance_cons, advance_cons, advance_cons, sameLine]
    · rw [Text.dropReturns_cons (not_and.1 isReturn), advance_cons, advance_cons, ih]

end JamLang
