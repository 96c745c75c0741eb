import JamLang.Proofs.Program.Ending

/-!
# The parser accepts exactly the programs of the grammar

The grammar relates tokens to trees without saying how to find them; the parser is a descent with
one token of lookahead.  On all lists of tokens whose integers can be read they agree: the parser
yields a tree if and only if the grammar derives the tokens with that tree.  As the parser has one
answer only, the grammar is unambiguous: operators cannot group in two ways, and a parenthesis
cannot both open a group and a call.
-/

namespace JamLang

open Grammar Dialogue

variable {tokens : List Token}

theorem parseTokens_of_derives {tree : Node} (derives : Derives .expression tokens tree)
    (readable : Readable tokens) : parseTokens tokens = .ok tree := by
  rw [Parse.parseTokens_eq, ending_of_derives derives readable]

theorem derives_of_parseTokens {tree : Node} (parses : parseTokens tokens = .ok tree) :
    Derives .expression tokens tree := by
  rw [Parse.parseTokens_eq] at parses
  have programEnd := programEnd_ending tokens
  generalize ending tokens = ending at parses programEnd
  cases programEnd with
  | accepted derives =>
    obtain rfl := Except.ok.inj parses
    exact derives
  | refused | cutShort | unreadable => simp at parses

/-- The tokens of a program determine its tree. -/
theorem derives_unique {tree other : Node} (derives : Derives .expression tokens tree)
    (derives' : Derives .expression tokens other) (readable : Readable tokens) : tree = other :=
  Except.ok.inj ((parseTokens_of_derives derives readable).symm.trans
    (parseTokens_of_derives derives' readable))

/-- Whatever can be read and is no program has a fault of the grammar. -/
theorem parseTokens_of_not_isProgram (notProgram : ¬ IsProgram tokens)
    (readable : Readable tokens) :
    ∃ fault, parseTokens tokens = .error (.grammar fault) := by
  rw [Parse.parseTokens_eq]
  have programEnd := programEnd_ending tokens
  generalize ending tokens = ending at programEnd
  cases programEnd with
  | accepted derives => exact absurd ⟨_, derives⟩ notProgram
  | refused | cutShort => exact ⟨_, rfl⟩
  | @unreadable consumed rest token fault split isInteger fails =>
    have isToken : token ∈ tokens := by simp [split]
    obtain ⟨value, isRead⟩ := readable token isToken isInteger
    exact absurd (isRead.symm.trans fails) (by simp)

/-- The parser yields exactly the trees that the grammar derives, which are unique, and reports a
fault of the grammar on everything else. -/
theorem parseTokens_exact (tokens : List Token) (readable : Readable tokens) :
    (∀ tree, parseTokens tokens = .ok tree ↔ Derives .expression tokens tree) ∧
      (∀ tree other, Derives .expression tokens tree → Derives .expression tokens other →
        tree = other) ∧
      (¬ IsProgram tokens → ∃ fault, parseTokens tokens = .error (.grammar fault)) :=
  ⟨fun _ => ⟨derives_of_parseTokens, fun derives => parseTokens_of_derives derives readable⟩,
    fun _ _ derives derives' => derives_unique derives derives' readable,
    fun notProgram => parseTokens_of_not_isProgram notProgram readable⟩

/-- Subtraction groups to the left; a lone closing parenthesis is refused. -/
theorem parseTokens_exact_differences :
    let name : Token := ⟨.identifier, "x", .unknown⟩
    let minus : Token := ⟨.operator, "-", .unknown⟩
    let closing : Token := ⟨.rightParen, ")", .unknown⟩
    let operand := Node.var "x" .unknown
    Readable [name, minus, name, minus, name] ∧
      parseTokens [name, minus, name, minus, name] =
        .ok (.binary "-" (.binary "-" operand operand .unknown) operand .unknown) ∧
      Readable [closing] ∧ ¬ IsProgram [closing] ∧
      ∃ fault, parseTokens [closing] = .error (.grammar fault) := by
  intro name minus closing operand
  have readable : Readable [name, minus, name, minus, name] := by
    simp [Readable, name, minus]
  have readable' : Readable [closing] := by simp [Readable, closing]
  have term : Derives .term [name] operand := .uncalled (.identifier rfl)
  have operations : Derives .operations [minus, name, minus, name]
      [(minus, operand), (minus, operand)] :=
    .moreOperations rfl (by decide) term (.moreOperations rfl (by decide) term .noOperations)
  have derives : Derives .expression [name, minus, name, minus, name]
      (.binary "-" (.binary "-" operand operand .unknown) operand .unknown) :=
    .operation term operations
  have refuses : parseTokens [closing] =
      .error (.grammar (.unexpected (some closing) .operand)) := rfl
  have notProgram : ¬ IsProgram [closing] := by
    rintro ⟨tree, derives⟩
    have parses := ((parseTokens_exact [closing] readable').1 tree).2 derives
    exact absurd (parses.symm.trans refuses) (by simp)
  exact ⟨readable, ((parseTokens_exact _ readable).1 _).2 derives, readable', notProgram,
    (parseTokens_exact [closing] readable').2.2 notProgram⟩

end JamLang
