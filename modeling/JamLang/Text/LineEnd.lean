/-!
# Line ends

A file may end its lines by a line feed, by a carriage return, or by both.  A text knows only line
feeds.
-/

namespace JamLang.Text

/-- Every line end written as one line feed. -/
def foldLineEnds : List Char → List Char
  | '\r' :: '\n' :: rest => '\n' :: foldLineEnds rest
  | '\r' :: rest => '\n' :: foldLineEnds rest
  | c :: rest => c :: foldLineEnds rest
  | [] => []

/-- After folding no carriage return is left. -/
theorem not_mem_foldLineEnds (text : List Char) : '\r' ∉ foldLineEnds text := by
  fun_induction foldLineEnds text <;> simp_all [eq_comm]

end JamLang.Text
