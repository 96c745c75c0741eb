import JamLang.Proofs.Descent.Relabeling
import JamLang.Proofs.Program.EarliestFault
import JamLang.Proofs.Source.WellFormed

/-!
# Programs that differ in names and places

Parsing relabeled tokens comes to the relabeled tree or fault (`parseTokens_relabel`), and it stops
at the same token (`ending_relabel`).  So names, whether they are repeated, shadowed, unbound or
spelled like a word of the language, and places have no influence on the shape of a tree.

The relabeling that forgets all places shows that tokens with the same words come to trees that are
equal up to locations, or to faults of one kind that read alike.
-/

namespace JamLang

open Node Dialogue

variable {tokens tokens' : List Token}

/-- Relabeled tokens end as the tokens do, with the relabeled answer and the same tokens left. -/
theorem ending_relabel (relabel : Relabeling) (tokens : List Token) :
    ending (tokens.map relabel.token) =
      (relabel.result relabel.node (ending tokens).1, relabel.view (ending tokens).2) := by
  have ends := on_program_relabel relabel (4 * tokens.length + 5) ⟨tokens, false⟩
  rw [ending, List.length_map]
  exact ends

/-- Relabeling tokens first and relabeling what they come to is the same. -/
theorem parseTokens_relabel (relabel : Relabeling) (tokens : List Token) :
    parseTokens (tokens.map relabel.token) = relabel.result relabel.node (parseTokens tokens) := by
  rw [Parse.parseTokens_eq, Parse.parseTokens_eq, ending_relabel]

/-! ## Reports -/

/-- A report on relabeled tokens asks for the same. -/
theorem expected_syntaxFault (relabel : Relabeling) (fault : SyntaxFault) :
    (relabel.syntaxFault fault).diagnostic.expected = fault.diagnostic.expected := by
  cases fault <;> rfl

theorem found_syntaxFault (relabel : Relabeling) (fault : SyntaxFault) :
    (relabel.syntaxFault fault).diagnostic.found = fault.diagnostic.found.map relabel.token := by
  cases fault <;> rfl

theorem FoundAt.relabel {before : List Token} {found : Option Token} {view : View}
    (foundAt : FoundAt tokens before found view) (relabel : Relabeling) :
    FoundAt (tokens.map relabel.token) (before.map relabel.token) (found.map relabel.token)
      (relabel.view view) := by
  cases foundAt with
  | token split => exact .token (by simp [split])
  | theEnd same => exact .theEnd (by rw [same])

/-- What was found in relabeled tokens is the relabeled token in the same place, or the end. -/
theorem exists_foundBehind_relabel (relabel : Relabeling) {fault : SyntaxFault} {after : Stream}
    (fails : Parse.program.run (.ofTokens tokens) = (.error (.grammar fault), after)) :
    ∃ before after', FoundBehind tokens before fault.diagnostic.found after ∧
      Parse.program.run (.ofTokens (tokens.map relabel.token)) =
        (.error (.grammar (relabel.syntaxFault fault)), after') ∧
      FoundBehind (tokens.map relabel.token) (before.map relabel.token)
        (fault.diagnostic.found.map relabel.token) after' := by
  obtain ⟨after, runs, stands, isList⟩ := Parse.run_program_ofTokens tokens
  obtain ⟨after', runs', stands', isList'⟩ :=
    Parse.run_program_ofTokens (tokens.map relabel.token)
  obtain ⟨isFault, rfl⟩ := Prod.mk.inj (runs.symm.trans fails)
  obtain ⟨before, foundAt, -⟩ := Parse.exists_foundAt isFault
  rw [ending_relabel, isFault] at runs'
  rw [ending_relabel] at stands'
  exact ⟨before, after', foundAt.behind stands isList, runs',
    (foundAt.relabel relabel).behind stands' isList'⟩

/-! ## Trees and faults -/

/-- Relabeled tokens are a program if the tokens are, and the tree is the relabeled one.  If they are
none, the report asks for the same, and what it found is the relabeled token in the same place, or
the end in both.  A number that cannot be read is the same fault. -/
theorem parse_commutes_relabel (relabel : Relabeling) (tokens : List Token) :
    ((∃ tree, parseTokens (tokens.map relabel.token) = .ok tree) ↔
        ∃ tree, parseTokens tokens = .ok tree) ∧
      (∀ tree, parseTokens tokens = .ok tree →
        parseTokens (tokens.map relabel.token) = .ok (relabel.node tree)) ∧
      (∀ fault diagnostic after, Parse.program.run (.ofTokens tokens) = (.error fault, after) →
        fault.diagnostic? = some diagnostic →
        ∃ fault' diagnostic' after' before,
          Parse.program.run (.ofTokens (tokens.map relabel.token)) = (.error fault', after') ∧
          fault'.diagnostic? = some diagnostic' ∧
          diagnostic'.expected = diagnostic.expected ∧
          diagnostic'.found = diagnostic.found.map relabel.token ∧
          FoundBehind tokens before diagnostic.found after ∧
          FoundBehind (tokens.map relabel.token) (before.map relabel.token) diagnostic'.found
            after') ∧
      (∀ fault, parseTokens tokens = .error fault → fault.diagnostic? = none →
        parseTokens (tokens.map relabel.token) = .error fault) := by
  have commutes := parseTokens_relabel relabel tokens
  refine ⟨?_, fun tree parses => ?_, fun fault diagnostic after fails reports => ?_,
    fun fault fails noReport => ?_⟩
  · rw [commutes]
    cases parseTokens tokens with
    | ok tree => simp [Relabeling.result]
    | error fault => simp [Relabeling.result]
  · rw [commutes, parses]
    rfl
  · have parses : parseTokens tokens = .error fault := congrArg Prod.fst fails
    rcases Parse.exists_of_parseTokens_error parses with ⟨fault, rfl⟩ | ⟨fault, rfl⟩
    · obtain rfl := Option.some.inj reports
      obtain ⟨before, after', foundBehind, fails', foundBehind'⟩ :=
        exists_foundBehind_relabel relabel fails
      rw [← found_syntaxFault] at foundBehind'
      exact ⟨_, _, after', before, fails', rfl, expected_syntaxFault relabel fault,
        found_syntaxFault relabel fault, foundBehind, foundBehind'⟩
    · simp [Fault.diagnostic?] at reports
  · rcases Parse.exists_of_parseTokens_error fails with ⟨fault, rfl⟩ | ⟨fault, rfl⟩
    · simp [Fault.diagnostic?] at noReport
    · rw [commutes, fails]
      rfl

/-- A variable that is named like a word of the language, a second one behind it, and a number that
is none. -/
theorem parse_commutes_relabel_keyword :
    let relabel : Relabeling := ⟨fun _ => "if", id, fun loc => ⟨loc.line + 1, loc.column⟩⟩
    let name : Token := ⟨.identifier, "x", ⟨1, 1⟩⟩
    let keyword : Token := ⟨.identifier, "if", ⟨2, 1⟩⟩
    let trailing : SyntaxFault := .trailing name
    parseTokens [name] = .ok (.var "x" ⟨1, 1⟩) ∧
      parseTokens [keyword] = .ok (.var "if" ⟨2, 1⟩) ∧
      Parse.program.run (.ofTokens [name, name]) =
        (.error (.grammar trailing), .ofTokens []) ∧
      (∃ fault' diagnostic' after' before,
        Parse.program.run (.ofTokens [keyword, keyword]) = (.error fault', after') ∧
        fault'.diagnostic? = some diagnostic' ∧
        diagnostic'.expected = trailing.diagnostic.expected ∧
        diagnostic'.found = some keyword ∧
        FoundBehind [name, name] before (some name) (.ofTokens []) ∧
        FoundBehind [keyword, keyword] (before.map relabel.token) diagnostic'.found after') ∧
      parseTokens [⟨.integer, "x", ⟨1, 1⟩⟩] = .error (.numeral (.malformed "x")) ∧
      parseTokens [⟨.integer, "x", ⟨2, 1⟩⟩] = .error (.numeral (.malformed "x")) := by
  intro relabel name keyword trailing
  have changed : relabel.token name = keyword := rfl
  have parses : parseTokens [name] = .ok (.var "x" ⟨1, 1⟩) := rfl
  have trails : Parse.program.run (.ofTokens [name, name]) =
      (.error (.grammar trailing), .ofTokens []) := rfl
  have fails : parseTokens [⟨.integer, "x", ⟨1, 1⟩⟩] = .error (.numeral (.malformed "x")) := rfl
  have onOne := parse_commutes_relabel relabel [name]
  have onTwo := parse_commutes_relabel relabel [name, name]
  have onNumber := parse_commutes_relabel relabel [⟨.integer, "x", ⟨1, 1⟩⟩]
  simp only [List.map_cons, List.map_nil, changed] at onOne onTwo
  exact ⟨parses, onOne.2.1 _ parses, trails, onTwo.2.2.1 _ _ _ trails rfl, fails,
    onNumber.2.2.2 _ fails rfl⟩

/-! ## Forgetting places -/

/-- The relabeling that keeps all names and forgets all places. -/
def Relabeling.forget : Relabeling :=
  ⟨id, id, fun _ => .unknown⟩

namespace Relabeling

theorem text_forget (kind : TokenKind) (text : String) : forget.text kind text = text := by
  cases kind <;> rfl

theorem token_forget (token : Token) :
    forget.token token = ⟨token.word.1, token.word.2, .unknown⟩ := by
  rw [Relabeling.token, text_forget]
  rfl

theorem label_forget (kind : NodeKind) (text : String) : forget.label kind text = text := by
  cases kind <;> rfl

mutual
theorem node_forget : ∀ tree : Node, forget.node tree = tree.unlocated
  | .mk kind value children loc type => by
    rw [node, unlocated, value_forget kind value, nodes_forget children]
    rfl

theorem value_forget (kind : NodeKind) :
    ∀ value : Value Node, forget.value kind value = unlocatedValue value
  | .literal literal => rfl
  | .text text => by rw [value, unlocatedValue, label_forget]
  | .node tree => by rw [value, unlocatedValue, node_forget tree]

theorem nodes_forget : ∀ trees : List Node, forget.nodes trees = unlocatedAll trees
  | [] => rfl
  | tree :: trees => by rw [nodes_cons, unlocatedAll_cons, node_forget tree, nodes_forget trees]
end

end Relabeling

open Relabeling (forget)

/-- Tokens with the same words are the same once their places are forgotten. -/
theorem map_forget_eq (sameWords : tokens.map Token.word = tokens'.map Token.word) :
    tokens.map forget.token = tokens'.map forget.token := by
  have ofWords (tokens : List Token) : tokens.map forget.token =
      (tokens.map Token.word).map fun word => (⟨word.1, word.2, .unknown⟩ : Token) := by
    rw [List.map_map]
    exact List.map_congr_left fun token _ => Relabeling.token_forget token
  rw [ofWords, ofWords, sameWords]

theorem message_forget (fault : SyntaxFault) :
    (forget.syntaxFault fault).diagnostic.message = fault.diagnostic.message := by
  have sameText (token : Token) : (forget.token token).text = token.text := by
    rw [Relabeling.token_forget]
    rfl
  cases fault with
  | unexpected found expected =>
    cases found with
    | none => rfl
    | some token =>
      simp [Relabeling.syntaxFault, SyntaxFault.diagnostic, Diagnostic.unexpected,
        Diagnostic.report, sameText]
  | trailing found =>
    simp [Relabeling.syntaxFault, SyntaxFault.diagnostic, Diagnostic.report, sameText]

/-! ## Outcomes that agree up to locations -/

/-- Two outcomes agree up to locations: they are trees that do, or faults of one kind with the same
message. -/
inductive Alike : Except Fault Node → Except Fault Node → Prop where
  | tree {tree other : Node} (same : tree.unlocated = other.unlocated) :
      Alike (.ok tree) (.ok other)
  | grammar {fault other : SyntaxFault}
      (sameMessage : fault.diagnostic.message = other.diagnostic.message)
      (sameExpected : fault.diagnostic.expected = other.diagnostic.expected) :
      Alike (.error (.grammar fault)) (.error (.grammar other))
  | numeral (fault : Text.NumeralFault) :
      Alike (.error (.numeral fault)) (.error (.numeral fault))

/-- Where tokens stand has no influence on what they come to. -/
theorem alike_of_map_word (sameWords : tokens.map Token.word = tokens'.map Token.word) :
    Alike (parseTokens tokens) (parseTokens tokens') := by
  have same : forget.result forget.node (parseTokens tokens) =
      forget.result forget.node (parseTokens tokens') := by
    rw [← parseTokens_relabel, ← parseTokens_relabel, map_forget_eq sameWords]
  -- Forgetting places tells a tree from a fault, and a fault of the grammar from one of a number.
  cases parses : parseTokens tokens with
  | ok tree =>
    cases parses' : parseTokens tokens' with
    | error cause => simp [parses, parses', Relabeling.result] at same
    | ok other =>
      rw [parses, parses'] at same
      have same := Except.ok.inj same
      rw [Relabeling.node_forget, Relabeling.node_forget] at same
      exact .tree same
  | error cause =>
    cases parses' : parseTokens tokens' with
    | ok other => simp [parses, parses', Relabeling.result] at same
    | error cause' =>
      rw [parses, parses'] at same
      have same : forget.fault cause = forget.fault cause' := Except.error.inj same
      rcases Parse.exists_of_parseTokens_error parses with ⟨fault, rfl⟩ | ⟨fault, rfl⟩ <;>
        rcases Parse.exists_of_parseTokens_error parses' with ⟨fault', rfl⟩ | ⟨fault', rfl⟩
      · have same := Fault.grammar.inj same
        refine .grammar ?_ ?_
        · rw [← message_forget fault, same, message_forget fault']
        · rw [← expected_syntaxFault forget fault, same, expected_syntaxFault forget fault']
      · simp [Relabeling.fault] at same
      · simp [Relabeling.fault] at same
      · obtain rfl := Fault.numeral.inj same
        exact .numeral fault

end JamLang
