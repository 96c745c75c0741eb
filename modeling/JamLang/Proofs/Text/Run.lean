/-!
# Longest runs

A run of characters that pass a test is the longest one in front of a text if the text does not
start with a character that passes.  Then the run is what `takeWhile` takes off and the text is what
it leaves; and what it takes off is always such a run.
-/

namespace JamLang.Text

variable {test : Char → Bool} {run text rest : List Char}

/-- All characters of the run pass the test, and the one behind it, if there is one, does not. -/
structure LongestRun (test : Char → Bool) (run rest : List Char) : Prop where
  passes : ∀ c ∈ run, test c = true
  stops : ∀ c ∈ rest.head?, test c = false

theorem LongestRun.takeWhile (longest : LongestRun test run rest) :
    (run ++ rest).takeWhile test = run := by
  rw [List.takeWhile_append_of_pos longest.passes]
  cases rest with
  | nil => simp
  | cons c rest => simp [longest.stops c rfl]

theorem LongestRun.dropWhile (longest : LongestRun test run rest) :
    (run ++ rest).dropWhile test = rest := by
  rw [List.dropWhile_append_of_pos longest.passes]
  cases rest with
  | nil => rfl
  | cons c rest => simp [longest.stops c rfl]

/-- A run stays the longest one if more text follows, as long as no character of it goes on the
run. -/
theorem LongestRun.append (longest : LongestRun test run text)
    (stops : text = [] → ∀ c ∈ rest.head?, test c = false) :
    LongestRun test run (text ++ rest) := by
  refine ⟨longest.passes, ?_⟩
  cases text with
  | nil => exact stops rfl
  | cons => exact longest.stops

theorem longestRun_takeWhile (test : Char → Bool) (text : List Char) :
    LongestRun test (text.takeWhile test) (text.dropWhile test) := by
  constructor
  · exact List.all_eq_true.1 List.all_takeWhile
  · intro c isFirst
    have notPasses := List.head?_dropWhile_not test text
    rw [Option.mem_def.1 isFirst] at notPasses
    simpa using notPasses

end JamLang.Text
