import JamLang.Lexer
import JamLang.Proofs.Text.Ascii
import JamLang.Proofs.Text.Run

/-!
# Lexemes

The text of one token, said without saying how it is found.  The first character decides what it is:
a letter starts the longest run of characters that go on a word, a digit the longest run of digits,
and anything else the longest symbol that stands there.  The kind of a word is that of the whole
word, looked up in the tables of the vocabulary.

Reading a token takes off a lexeme, or fails where there is none (`tokenEnd_readToken`).
-/

namespace JamLang

/-! ## The kinds of words and symbols -/

namespace Vocabulary

/-- The kind that the tables give to a word. -/
inductive HasKind (word : String) : TokenKind → Prop where
  | keyword {kind : TokenKind} (isKeyword : (word, kind) ∈ keywords) : HasKind word kind
  | literal {kind : TokenKind} (isLiteral : (word, kind) ∈ literals) : HasKind word kind
  | primitive (isPrimitive : word ∈ primitives) : HasKind word .primitive
  | identifier (noKeyword : word ∉ keywords.map Prod.fst) (noLiteral : word ∉ literals.map Prod.fst)
      (noPrimitive : word ∉ primitives) : HasKind word .identifier

theorem mem_of_lookup {table : List (String × TokenKind)} {text : String} {kind : TokenKind}
    (found : table.lookup text = some kind) : (text, kind) ∈ table := by
  obtain ⟨before, after, rfl, -⟩ := List.lookup_eq_some_iff.1 found
  simp

theorem lookup_eq_none {table : List (String × TokenKind)} {text : String} :
    table.lookup text = none ↔ text ∉ table.map Prod.fst := by
  simp only [List.lookup_eq_none_iff, bne_iff_ne, List.mem_map, not_exists, not_and]
  exact ⟨fun differs entry isEntry same => differs entry isEntry same.symm,
    fun differs entry isEntry same => differs entry isEntry same.symm⟩

/-- No word has two kinds, so it does not matter in which order the tables are searched. -/
theorem hasKind_iff {word : String} {kind : TokenKind} :
    HasKind word kind ↔ wordKind word = kind := by
  constructor
  · intro hasKind
    cases hasKind with
    | keyword isKeyword =>
      have reserved : ∀ entry ∈ keywords, wordKind entry.1 = entry.2 := by decide
      exact reserved _ isKeyword
    | literal isLiteral =>
      have reserved : ∀ entry ∈ literals, wordKind entry.1 = entry.2 := by decide
      exact reserved _ isLiteral
    | primitive isPrimitive =>
      have reserved : ∀ name ∈ primitives, wordKind name = .primitive := by decide +kernel
      exact reserved _ isPrimitive
    | identifier noKeyword noLiteral noPrimitive =>
      rw [wordKind, lookup_eq_none.2 noKeyword, lookup_eq_none.2 noLiteral]
      exact if_neg noPrimitive
  · rintro rfl
    unfold wordKind
    split
    · next found => exact .keyword (mem_of_lookup found)
    · next noKeyword =>
      split
      · next found => exact .literal (mem_of_lookup found)
      · next noLiteral =>
        split
        · next isPrimitive => exact .primitive isPrimitive
        · next noPrimitive =>
          exact .identifier (lookup_eq_none.1 noKeyword) (lookup_eq_none.1 noLiteral) noPrimitive

theorem symbolKind?_eq_some_iff {text : String} {kind : TokenKind} :
    symbolKind? text = some kind ↔ (text, kind) ∈ symbols := by
  have oneKind : ∀ entry ∈ symbols, symbolKind? entry.1 = some entry.2 := by decide
  exact ⟨mem_of_lookup, oneKind _⟩

end Vocabulary

namespace Lexer

open Text (LongestRun longestRun_takeWhile)

variable {loc : Loc} {c : Char} {text symbol more rest : List Char} {kind : TokenKind}

/-! ## The longest symbol -/

/-- The text starts with the symbol, and with none that is longer. -/
structure IsLongestSymbol (symbol : List Char) (kind : TokenKind) (text : List Char) : Prop where
  isSymbol : (String.ofList symbol, kind) ∈ Vocabulary.symbols
  starts : symbol <+: text
  longest : ∀ other otherKind, (String.ofList other, otherKind) ∈ Vocabulary.symbols →
    other <+: text → other.length ≤ symbol.length

def StartsNoSymbol (text : List Char) : Prop :=
  ∀ symbol kind, (String.ofList symbol, kind) ∈ Vocabulary.symbols → ¬ symbol <+: text

theorem length_of_mem_symbols (isSymbol : (String.ofList symbol, kind) ∈ Vocabulary.symbols) :
    0 < symbol.length ∧ symbol.length ≤ 2 := by
  have lengths : ∀ entry ∈ Vocabulary.symbols, 0 < entry.1.length ∧ entry.1.length ≤ 2 := by decide
  simpa using lengths _ isSymbol

theorem IsLongestSymbol.unique {other : List Char} {otherKind : TokenKind}
    (longest : IsLongestSymbol symbol kind text)
    (longest' : IsLongestSymbol other otherKind text) : symbol = other ∧ kind = otherKind := by
  have le := longest'.longest _ _ longest.isSymbol longest.starts
  have ge := longest.longest _ _ longest'.isSymbol longest'.starts
  have same : symbol = other :=
    (List.prefix_of_prefix_length_le longest.starts longest'.starts le).eq_of_length
      (Nat.le_antisymm le ge)
  subst same
  have isKind := Vocabulary.symbolKind?_eq_some_iff.2 longest.isSymbol
  have isKind' := Vocabulary.symbolKind?_eq_some_iff.2 longest'.isSymbol
  exact ⟨rfl, Option.some.inj (isKind.symm.trans isKind')⟩

/-- A symbol in front of a text is the text cut off at its length. -/
theorem symbolKind?_take (isSymbol : (String.ofList symbol, kind) ∈ Vocabulary.symbols)
    (starts : symbol <+: text) :
    Vocabulary.symbolKind? (String.ofList (text.take symbol.length)) = some kind := by
  rw [← List.prefix_iff_eq_take.1 starts]
  exact Vocabulary.symbolKind?_eq_some_iff.2 isSymbol

/-- The first characters of a text are its longest symbol if no longer symbol stands there. -/
theorem isLongestSymbol_take {count : Nat}
    (isKind : Vocabulary.symbolKind? (String.ofList (text.take count)) = some kind)
    (longest : ∀ other otherKind, (String.ofList other, otherKind) ∈ Vocabulary.symbols →
      other <+: text → other.length ≤ count) : IsLongestSymbol (text.take count) kind text where
  isSymbol := Vocabulary.symbolKind?_eq_some_iff.1 isKind
  starts := List.take_prefix count text
  longest other otherKind isSymbol starts := by
    rw [List.length_take]
    exact Nat.le_min.2 ⟨longest other otherKind isSymbol starts, starts.length_le⟩

theorem isLongestSymbol_of_symbol? (found : symbol? text = some (kind, symbol)) :
    IsLongestSymbol symbol kind text := by
  simp only [symbol?, List.findSome?_cons, List.findSome?_nil] at found
  cases isTwo : Vocabulary.symbolKind? (String.ofList (text.take 2)) with
  | some kind' =>
    simp only [isTwo, Option.map_some, Option.some.injEq, Prod.mk.injEq] at found
    obtain ⟨rfl, rfl⟩ := found
    exact isLongestSymbol_take isTwo fun _ _ isSymbol _ => (length_of_mem_symbols isSymbol).2
  | none =>
    cases isOne : Vocabulary.symbolKind? (String.ofList (text.take 1)) with
    | none => simp [isTwo, isOne] at found
    | some kind' =>
      simp only [isTwo, isOne, Option.map_none, Option.map_some, Option.some.injEq,
        Prod.mk.injEq] at found
      obtain ⟨rfl, rfl⟩ := found
      refine isLongestSymbol_take isOne fun other otherKind isSymbol starts => ?_
      -- A symbol of two characters would have been found before.
      have notTwo : other.length ≠ 2 := fun two =>
        absurd (isTwo.symm.trans (two ▸ symbolKind?_take isSymbol starts)) (by simp)
      have atMostTwo := (length_of_mem_symbols isSymbol).2
      omega

theorem startsNoSymbol_of_symbol? (notFound : symbol? text = none) : StartsNoSymbol text := by
  intro symbol kind isSymbol starts
  obtain ⟨positive, atMostTwo⟩ := length_of_mem_symbols isSymbol
  have isCount : symbol.length ∈ [2, 1] := by
    simp only [List.mem_cons, List.not_mem_nil, or_false]
    omega
  have none := List.findSome?_eq_none_iff.1 notFound _ isCount
  rw [symbolKind?_take isSymbol starts] at none
  simp at none

/-- The longest symbol is found, as there is no other. -/
theorem symbol?_of_isLongestSymbol (longest : IsLongestSymbol symbol kind text) :
    symbol? text = some (kind, symbol) := by
  cases found : symbol? text with
  | none =>
    exact absurd longest.starts (startsNoSymbol_of_symbol? found _ _ longest.isSymbol)
  | some entry =>
    obtain ⟨kind', symbol'⟩ := entry
    obtain ⟨rfl, rfl⟩ := longest.unique (isLongestSymbol_of_symbol? found)
    rfl

theorem symbol?_of_startsNoSymbol (noSymbol : StartsNoSymbol text) : symbol? text = none := by
  cases found : symbol? text with
  | none => rfl
  | some entry =>
    obtain ⟨kind, symbol⟩ := entry
    obtain ⟨isSymbol, starts, -⟩ := isLongestSymbol_of_symbol? found
    exact absurd starts (noSymbol _ _ isSymbol)

/-! ## Lexemes -/

/-- The text is one token of the kind in front of the rest. -/
inductive IsLexeme : TokenKind → (lexeme rest : List Char) → Prop where
  | word {c : Char} {run rest : List Char} {kind : TokenKind} (isLetter : Text.isLetter c = true)
      (isRun : LongestRun isWordChar run rest)
      (hasKind : Vocabulary.HasKind (String.ofList (c :: run)) kind) : IsLexeme kind (c :: run) rest
  | number {c : Char} {run rest : List Char} (isDigit : c.isDigit = true)
      (isRun : LongestRun Char.isDigit run rest) : IsLexeme .integer (c :: run) rest
  | symbol {c : Char} {more rest : List Char} {kind : TokenKind}
      (notLetter : Text.isLetter c = false) (notDigit : c.isDigit = false)
      (isLongest : IsLongestSymbol (c :: more) kind (c :: (more ++ rest))) :
      IsLexeme kind (c :: more) rest

theorem IsLexeme.exists_cons {lexeme : List Char} (isLexeme : IsLexeme kind lexeme rest) :
    ∃ c more, lexeme = c :: more := by
  cases isLexeme with
  | word | number | symbol => exact ⟨_, _, rfl⟩

structure IsIllegal (c : Char) (rest : List Char) : Prop where
  notLetter : Text.isLetter c = false
  notDigit : c.isDigit = false
  noSymbol : StartsNoSymbol (c :: rest)

theorem readToken_of_isLexeme (isLexeme : IsLexeme kind (c :: more) rest) (loc : Loc) :
    readToken loc c (more ++ rest) =
      .token ⟨kind, String.ofList (c :: more), loc⟩ ⟨loc.advance (c :: more), rest⟩ := by
  cases isLexeme with
  | word isLetter isRun hasKind =>
    obtain rfl := Vocabulary.hasKind_iff.1 hasKind
    simp only [readToken, isLetter, if_true, isRun.takeWhile, isRun.dropWhile]
  | number isDigit isRun =>
    have notLetter := Text.not_isLetter_of_isDigit isDigit
    simp only [readToken, notLetter, Bool.false_eq_true, if_false, isDigit, if_true,
      isRun.takeWhile, isRun.dropWhile]
  | symbol notLetter notDigit isLongest =>
    have found := symbol?_of_isLongestSymbol isLongest
    simp only [readToken, notLetter, notDigit, Bool.false_eq_true, if_false, found,
      List.length_cons, List.drop_succ_cons, List.drop_left]

theorem readToken_of_isIllegal (isIllegal : IsIllegal c rest) (loc : Loc) :
    readToken loc c rest = .fault (.illegalCharacter c loc) ⟨loc, c :: rest⟩ := by
  have notFound := symbol?_of_startsNoSymbol isIllegal.noSymbol
  simp only [readToken, isIllegal.notLetter, isIllegal.notDigit, Bool.false_eq_true, if_false,
    notFound]

/-- How reading a token may end. -/
inductive TokenEnd (loc : Loc) (c : Char) (text : List Char) : Scan → Prop where
  | token {kind : TokenKind} {more rest : List Char} (split : text = more ++ rest)
      (isLexeme : IsLexeme kind (c :: more) rest) :
      TokenEnd loc c text
        (.token ⟨kind, String.ofList (c :: more), loc⟩ ⟨loc.advance (c :: more), rest⟩)
  | illegal (isIllegal : IsIllegal c text) :
      TokenEnd loc c text (.fault (.illegalCharacter c loc) ⟨loc, c :: text⟩)

theorem tokenEnd_readToken (loc : Loc) (c : Char) (text : List Char) :
    TokenEnd loc c text (readToken loc c text) := by
  unfold readToken
  split
  · next isLetter =>
    exact .token List.takeWhile_append_dropWhile.symm
      (.word isLetter (longestRun_takeWhile isWordChar text) (Vocabulary.hasKind_iff.2 rfl))
  · next notLetter =>
    split
    · next isDigit =>
      exact .token List.takeWhile_append_dropWhile.symm
        (.number isDigit (longestRun_takeWhile Char.isDigit text))
    · next notDigit =>
      have notLetter : Text.isLetter c = false := by simpa using notLetter
      have notDigit : c.isDigit = false := by simpa using notDigit
      split
      · next kind symbol found =>
        have isLongest := isLongestSymbol_of_symbol? found
        -- A symbol is not empty, so it starts with the character that was looked at.
        obtain ⟨d, more, rfl⟩ := List.exists_cons_of_ne_nil (ne_nil_of_symbol? found)
        obtain ⟨rest, same⟩ := isLongest.starts
        obtain ⟨rfl, isText⟩ := List.cons.inj same
        obtain rfl : more ++ rest = text := isText
        simp only [List.length_cons, List.drop_succ_cons, List.drop_left]
        exact .token rfl (.symbol notLetter notDigit isLongest)
      · next notFound =>
        exact .illegal ⟨notLetter, notDigit, startsNoSymbol_of_symbol? notFound⟩

end Lexer

end JamLang
