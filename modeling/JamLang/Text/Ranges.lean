/-!
# Sets of characters as ranges of code points

A property of characters that a standard gives by a table is held here as a list of closed ranges
of code points.  Membership is read straight off the list, so that a statement about all
characters of a table can be settled by going through its ranges.
-/

namespace JamLang.Text

/-- The character's code point lies in one of the closed ranges. -/
def inRanges (ranges : List (Nat × Nat)) (c : Char) : Bool :=
  ranges.any fun range => range.1 ≤ c.toNat && c.toNat ≤ range.2

theorem inRanges_iff {ranges : List (Nat × Nat)} {c : Char} :
    inRanges ranges c = true ↔
      ∃ range ∈ ranges, range.1 ≤ c.toNat ∧ c.toNat ≤ range.2 := by
  simp [inRanges]

end JamLang.Text
