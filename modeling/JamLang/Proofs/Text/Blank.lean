import JamLang.Proofs.Text.Run
import JamLang.Text.Blank
import Mathlib.Data.List.TakeWhile

/-!
# Blanks around a text and between its words

Trimming takes blanks off the two ends of a text and nothing else, so a text can be put together
again from what trimming leaves (`exists_trim`), and blanks that are put around it are trimmed away
(`trim_pad`).  Words are what stands between blanks: a text with a first word is that word behind
some blanks, followed by nothing or by a blank (`exists_of_words_cons`).
-/

namespace JamLang.Text

variable {c : Char} {text first second rest : List Char}

/-- All characters of the text are blank. -/
def AreBlank (text : List Char) : Prop :=
  ∀ c ∈ text, isBlank c = true

/-- A blank comes first, or nothing. -/
def StartsBlank (text : List Char) : Prop :=
  ∀ c ∈ text.head?, isBlank c = true

theorem areBlank_append : AreBlank (first ++ second) ↔ AreBlank first ∧ AreBlank second :=
  List.forall_mem_append

theorem AreBlank.startsBlank (blank : AreBlank text) : StartsBlank text := by
  intro c isFirst
  exact blank c (List.mem_of_mem_head? isFirst)

/-- A test of characters that all the blanks of the table pass. -/
theorem forall_isBlank (test : Char → Bool)
    (passes : ∀ range ∈ blankRanges, ∀ code ∈ List.range' range.1 (range.2 + 1 - range.1),
      test (Char.ofNat code) = true)
    (isBlank : isBlank c = true) : test c = true := by
  obtain ⟨range, isRange, least, greatest⟩ := inRanges_iff.1 isBlank
  have isCode : c.toNat ∈ List.range' range.1 (range.2 + 1 - range.1) := by
    rw [List.mem_range'_1]
    omega
  have ofCode := passes range isRange _ isCode
  rwa [Char.ofNat_toNat] at ofCode

/-! ## Trimming -/

theorem areBlank_takeWhile (text : List Char) : AreBlank (text.takeWhile isBlank) :=
  (longestRun_takeWhile isBlank text).passes

/-- Trimming takes blanks off the two ends. -/
theorem exists_trim (text : List Char) :
    ∃ before after, text = before ++ (trim text ++ after) ∧ AreBlank before ∧ AreBlank after := by
  let kept := text.dropWhile isBlank
  refine ⟨text.takeWhile isBlank, (kept.reverse.takeWhile isBlank).reverse, ?_,
    areBlank_takeWhile text, ?_⟩
  · have split : trim text ++ (kept.reverse.takeWhile isBlank).reverse = kept := by
      rw [trim, ← List.reverse_append, List.takeWhile_append_dropWhile, List.reverse_reverse]
    rw [split, List.takeWhile_append_dropWhile]
  · intro c isPart
    exact areBlank_takeWhile _ c (List.mem_reverse.1 isPart)

/-- Blanks around a text are trimmed away. -/
theorem trim_pad (before : AreBlank first) (after : AreBlank second) (text : List Char) :
    trim (first ++ (text ++ second)) = trim text := by
  unfold trim
  rw [List.dropWhile_append_of_pos before]
  by_cases blank : AreBlank text
  · -- Nothing is left of a text of blanks, whatever blanks follow it.
    rw [List.dropWhile_append_of_pos blank, List.dropWhile_eq_nil_iff.2 after,
      List.dropWhile_eq_nil_iff.2 blank]
  · have notEmpty : text.dropWhile isBlank ≠ [] := by
      intro isEmpty
      exact blank (List.dropWhile_eq_nil_iff.1 isEmpty)
    have behind : AreBlank second.reverse := by
      intro c isPart
      exact after c (List.mem_reverse.1 isPart)
    rw [List.dropWhile_append, if_neg (by simpa using notEmpty), List.reverse_append,
      List.dropWhile_append_of_pos behind]

theorem trim_trim (text : List Char) : trim (trim text) = trim text := by
  obtain ⟨before, after, split, blankBefore, blankAfter⟩ := exists_trim text
  have trims := trim_pad blankBefore blankAfter (trim text)
  rw [← split] at trims
  exact trims.symm

/-- A text without blanks at its ends is left alone. -/
theorem trim_of_ends (starts : ∀ c ∈ text.head?, isBlank c = false)
    (ends : ∀ c ∈ text.getLast?, isBlank c = false) : trim text = text := by
  have fromStart : text.dropWhile isBlank = text := by
    cases text with
    | nil => rfl
    | cons c text => rw [List.dropWhile_cons_of_neg (by simp [starts c rfl])]
  have fromEnd : text.reverse.dropWhile isBlank = text.reverse := by
    rw [← List.head?_reverse] at ends
    cases reversed : text.reverse with
    | nil => rfl
    | cons c rest => rw [List.dropWhile_cons_of_neg (by simp [ends c (by simp [reversed])])]
  rw [trim, fromStart, fromEnd, List.reverse_reverse]

/-! ## Words -/

/-- The text is a word: it is not empty, and none of its characters is blank. -/
structure IsUnbroken (word : List Char) : Prop where
  notEmpty : word ≠ []
  notBlank : ∀ c ∈ word, isBlank c = false

theorem IsUnbroken.not_mem (isUnbroken : IsUnbroken text) (isBlank : isBlank c = true) :
    c ∉ text := by
  intro isPart
  rw [isUnbroken.notBlank c isPart] at isBlank
  cases isBlank

theorem IsUnbroken.trim (isUnbroken : IsUnbroken text) : trim text = text := by
  apply trim_of_ends
  · exact fun c isFirst => isUnbroken.notBlank c (List.mem_of_mem_head? isFirst)
  · exact fun c isLast => isUnbroken.notBlank c (List.mem_of_getLast? isLast)

theorem words_append_cons (isBlank : isBlank c = true) (first second : List Char) :
    words (first ++ c :: second) = words first ++ words second := by
  rw [words, List.splitOnP_append_cons first second isBlank, List.filter_append]
  rfl

theorem words_nil : words [] = [] := by
  simp [words]

theorem words_cons (isBlank : isBlank c = true) (text : List Char) :
    words (c :: text) = words text := by
  have splits := words_append_cons isBlank [] text
  rwa [List.nil_append, words_nil, List.nil_append] at splits

theorem words_append_left (blank : AreBlank first) (text : List Char) :
    words (first ++ text) = words text := by
  induction first with
  | nil => rfl
  | cons c first ih =>
    obtain ⟨isBlank, blank⟩ := List.forall_mem_cons.1 blank
    rw [List.cons_append, words_cons isBlank, ih blank]

theorem words_of_isUnbroken (isUnbroken : IsUnbroken text) : words text = [text] := by
  have single : text.splitOnP isBlank = [text] :=
    List.splitOnP_eq_singleton isUnbroken.notBlank
  simp [words, single, isUnbroken.notEmpty]

/-- A word in front of a blank or the end is the first one. -/
theorem words_append (isUnbroken : IsUnbroken first) (starts : StartsBlank rest) :
    words (first ++ rest) = first :: words rest := by
  cases rest with
  | nil => rw [List.append_nil, words_of_isUnbroken isUnbroken, words_nil]
  | cons c rest =>
    have isBlank := starts c rfl
    rw [words_append_cons isBlank, words_of_isUnbroken isUnbroken, words_cons isBlank]
    rfl

/-- What the blanks in front of a text leave is nothing, or a word and what follows it. -/
theorem exists_words (text : List Char) :
    AreBlank text ∨ ∃ before word rest, text = before ++ (word ++ rest) ∧ AreBlank before ∧
      IsUnbroken word ∧ StartsBlank rest := by
  by_cases blank : AreBlank text
  · exact .inl blank
  · obtain ⟨c, more, isCons⟩ : ∃ c more, text.dropWhile isBlank = c :: more := by
      apply List.exists_cons_of_ne_nil
      intro isEmpty
      exact blank (List.dropWhile_eq_nil_iff.1 isEmpty)
    have notBlank := (longestRun_takeWhile isBlank text).stops c (by simp [isCons])
    have isRun := longestRun_takeWhile (!isBlank ·) (c :: more)
    refine .inr ⟨text.takeWhile isBlank, (c :: more).takeWhile (!isBlank ·),
      (c :: more).dropWhile (!isBlank ·), ?_, areBlank_takeWhile text, ⟨?_, ?_⟩, ?_⟩
    · rw [List.takeWhile_append_dropWhile, ← isCons, List.takeWhile_append_dropWhile]
    · simp [notBlank]
    · intro c isPart
      simpa using isRun.passes c isPart
    · intro c isFirst
      simpa using isRun.stops c isFirst

theorem areBlank_of_words (noWords : words text = []) : AreBlank text := by
  cases exists_words text with
  | inl blank => exact blank
  | inr found =>
    obtain ⟨before, word, rest, rfl, blank, isUnbroken, starts⟩ := found
    rw [words_append_left blank, words_append isUnbroken starts] at noWords
    cases noWords

/-- A text that has a first word is this word behind some blanks. -/
theorem exists_of_words_cons {word : List Char} {more : List (List Char)}
    (areWords : words text = word :: more) :
    ∃ before rest, text = before ++ (word ++ rest) ∧ AreBlank before ∧ IsUnbroken word ∧
      StartsBlank rest ∧ words rest = more := by
  cases exists_words text with
  | inl blank =>
    have noWords := words_append_left blank []
    rw [List.append_nil, words_nil, areWords] at noWords
    cases noWords
  | inr found =>
    obtain ⟨before, first, rest, rfl, blank, isUnbroken, starts⟩ := found
    rw [words_append_left blank, words_append isUnbroken starts] at areWords
    obtain ⟨rfl, isMore⟩ := List.cons.inj areWords
    exact ⟨before, rest, rfl, blank, isUnbroken, starts, isMore⟩

/-- A trimmed text of one word is this word. -/
theorem eq_of_words_singleton {word : List Char} (trimmed : trim text = text)
    (areWords : words text = [word]) : text = word := by
  obtain ⟨before, rest, rfl, blank, isUnbroken, -, noMore⟩ := exists_of_words_cons areWords
  rw [← trimmed, trim_pad blank (areBlank_of_words noMore), isUnbroken.trim]

end JamLang.Text
