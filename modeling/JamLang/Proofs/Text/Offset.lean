import JamLang.Proofs.Text.Location

/-!
# Locations of offsets

The lexer moves its location along with every character that it takes off a text.  Said without
going through the text, the location of an offset is the number of line feeds before it and its
distance from the start of its line, both counted from one.  The two agree at every offset
(`ofOffset_eq_advance`).
-/

namespace JamLang

/-- The offset behind the last line feed before an offset, or zero. -/
def Text.lineStart (text : List Char) : Nat → Nat
  | 0 => 0
  | offset + 1 => if text[offset]? = some '\n' then offset + 1 else lineStart text offset

namespace Loc

/-- The location of an offset: the line feeds before it and the distance from the start of its line,
counted from one. -/
def ofOffset (text : List Char) (offset : Nat) : Loc :=
  ⟨1 + (text.take offset).count '\n', (offset : Int) - Text.lineStart text offset + 1⟩

/-- Going through a text up to an offset leads to the location of the offset. -/
theorem ofOffset_eq_advance {text : List Char} {offset : Nat} (inside : offset ≤ text.length) :
    ofOffset text offset = start.advance (text.take offset) := by
  induction offset with
  | zero => rfl
  | succ offset ih =>
    have goesOn : text.take (offset + 1) = text.take offset ++ [text[offset]] :=
      List.take_succ_eq_append_getElem inside
    have isHere : text[offset]? = some text[offset] := List.getElem?_eq_getElem inside
    rw [goesOn, advance_append, ← ih (Nat.le_of_succ_le inside), advance_cons, advance_nil,
      ofOffset, ofOffset, goesOn, List.count_append, Text.lineStart, isHere, next]
    by_cases isFeed : text[offset] = '\n'
    · rw [isFeed, if_pos rfl, if_pos rfl, List.count_singleton_self, Loc.mk.injEq]
      dsimp only
      omega
    · rw [if_neg (by simpa using isFeed), if_neg isFeed, List.count_singleton,
        if_neg (by simpa using isFeed), Loc.mk.injEq]
      dsimp only
      omega

/-- A part of a text starts at the location of its offset. -/
theorem advance_eq_ofOffset (before rest : List Char) :
    start.advance before = ofOffset (before ++ rest) before.length := by
  rw [ofOffset_eq_advance (by simp), List.take_left]

end Loc

end JamLang
