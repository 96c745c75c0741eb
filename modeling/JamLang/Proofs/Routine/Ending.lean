import JamLang.Proofs.Program.Ending

/-!
# How a routine on its own ends

A routine of the grammar can be run by itself, on any tokens and, where it takes a lead, with any
token as its lead.  A list of expressions may have any kinds of tokens between its items and at its
end.  Whatever a routine is given, the bound that it runs with suffices, and a fault of the grammar
names the last token read, or the end.

The proofs follow the text of the routines.  What a routine recognises does not matter here, so all
steps are weakened to the language of everything, in which any routine may come after any other.
-/

namespace JamLang

/-- The language of all tokens, which stand for whatever a routine yields. -/
def Phrases.anything {α : Type} : Phrases α :=
  fun _ _ => True

namespace Dialogue

open Grammar Phrases

variable {α β : Type} {tokens : List Token}

/-! ## Endings -/

/-- How a routine may end, and what it leaves. -/
inductive Settled (tokens : List Token) : Except Fault α × View → Prop where
  /-- Tokens were taken off the front. -/
  | accepted {consumed rest : List Token} {value : α} {looked : Bool}
      (split : tokens = consumed ++ rest) : Settled tokens (.ok value, ⟨rest, looked⟩)
  /-- The last token read is the one that was found. -/
  | refused {consumed rest : List Token} {found : Token} {fault : SyntaxFault}
      (split : tokens = consumed ++ found :: rest)
      (isFound : fault.diagnostic.found = some found) :
      Settled tokens (.error (.grammar fault), ⟨rest, false⟩)
  /-- All tokens were read, and the end was found. -/
  | cutShort {fault : SyntaxFault} (isFound : fault.diagnostic.found = none) :
      Settled tokens (.error (.grammar fault), ⟨[], true⟩)
  /-- An integer cannot be read. -/
  | unreadable {fault : Text.NumeralFault} {view : View} :
      Settled tokens (.error (.numeral fault), view)

theorem Settled.ne_tooDeep {ending : Except Fault α × View} (settled : Settled tokens ending) :
    ending.1 ≠ .error .tooDeep := by
  cases settled <;> simp

theorem settled_of_outcome {phrases : Phrases α} {ending : Except Fault α × View}
    (outcome : Outcome phrases tokens ending) : Settled tokens ending := by
  cases outcome with
  | accepted split _ => exact .accepted split
  | refused split _ => exact .refused split rfl
  | cutShort _ => exact .cutShort rfl
  | unreadable => exact .unreadable

theorem ProgramEnd.settled {ending : Except Fault Node × View}
    (programEnd : ProgramEnd tokens ending) : Settled tokens ending := by
  cases programEnd with
  | accepted _ => exact .accepted (List.append_nil tokens).symm
  | refused split isFound _ => exact .refused split isFound
  | cutShort isFound _ => exact .cutShort isFound
  | unreadable => exact .unreadable

/-- A routine that comes to such an ending with its bound. -/
structure Settles (enough : Nat → Nat) (routine : Nat → Dialogue α) : Prop where
  approximates {bound larger : Nat} (le : bound ≤ larger) :
    Approximates (routine bound) (routine larger)
  settled (tokens : List Token) :
    Settled tokens ((routine (enough tokens.length)).on ⟨tokens, false⟩)

theorem Settles.suffices {enough : Nat → Nat} {routine : Nat → Dialogue α}
    (settles : Settles enough routine) : Suffices enough routine where
  approximates := settles.approximates
  ne_tooDeep tokens := (settles.settled tokens).ne_tooDeep

/-! ## Any routine after any other -/

section Anything

variable {limit : Nat} {looked : Bool} {lead : List Token} {routine : Dialogue α}
  {phrases : Phrases α}

theorem Recognises.toAnything (recognises : Recognises limit looked lead routine phrases) :
    Recognises limit looked lead routine anything :=
  recognises.mono fun _ _ _ => trivial

theorem Recognises.andThen {next : α → Dialogue β}
    (first : Recognises limit looked lead routine phrases)
    (second : ∀ value looked, Recognises limit looked [] (next value) anything) :
    Recognises limit looked lead (routine.bind next) anything :=
  (first.bind second).toAnything

end Anything

section Routines

variable {bound limit : Nat} {looked : Bool}

/-! ## Routines that take any lead

The words `if`, `let` and `map` only give their locations to the tree, so the routines behind them
do not care what their lead is. -/

theorem anything_conditional (lead : Option Token) (enough : 4 * limit + 5 ≤ bound) :
    Recognises limit looked [] (conditional (bound + 1) lead) anything := by
  have ih := recognisesAll bound
  simp only [conditional, bind_eq_bind]
  exact (ih.expression enough).andThen fun _ _ => (recognises_expect fun _ => .rfl).andThen
    fun _ _ => (ih.expression enough).andThen fun _ _ => (recognises_expect fun _ => .rfl).andThen
    fun _ _ => (ih.expression enough).andThen fun _ _ => recognises_pure trivial

theorem anything_definitions (enough : 4 * limit + 3 ≤ bound) :
    Recognises limit looked [] (definitions bound) anything := by
  simp only [definitions, bind_eq_bind]
  refine recognises_read (fun lead left within => ?_) ?_
  · exact ((recognisesAll bound).definitions lead (by omega)).toAnything
  · rw [moreDefinitions_none (by omega)]
    exact outcome_unexpected_none (repairable_definitions.mono fun _ _ _ => trivial)

theorem anything_letIn (lead : Option Token) (enough : 4 * limit + 5 ≤ bound) :
    Recognises limit looked [] (letIn (bound + 1) lead) anything := by
  have regrouped : letIn (bound + 1) lead = (definitions bound).bind fun defined =>
      (expression bound).bind fun body => pure (.letIn defined body (locOf lead)) := rfl
  rw [regrouped]
  exact (anything_definitions (by omega)).andThen fun _ _ =>
    ((recognisesAll bound).expression enough).andThen fun _ _ => recognises_pure trivial

theorem anything_mapTo (lead : Option Token) (enough : 4 * limit + 5 ≤ bound) :
    Recognises limit looked [] (mapTo (bound + 1) lead) anything := by
  simp only [mapTo, bind_eq_bind]
  exact (recognises_mapVariables (by omega)).andThen fun _ _ =>
    ((recognisesAll bound).expression enough).andThen fun _ _ => recognises_pure trivial

theorem anything_factor (lead : Token) (enough : 4 * limit + 5 ≤ bound) :
    Recognises limit false [lead] (factor (bound + 1) (some lead)) anything := by
  by_cases starts : StartsFactor lead
  · exact ((recognisesAll (bound + 1)).factor starts (by omega)).toAnything
  · rw [factor_of_not_starts starts]
    exact recognises_unexpected (repairable_term.mono fun _ _ _ => trivial)

/-! ## Lists of expressions with any separator and delimiter -/

theorem anything_moreExpressions (separator delimiter : TokenKind)
    (enough : 4 * limit + 6 ≤ bound) :
    Recognises limit looked [] (moreExpressions bound separator delimiter) anything := by
  induction bound generalizing limit looked with
  | zero => omega
  | succ bound ih =>
    have atEnd first : Repairable anything [] .commaOrParen :=
      (repairable_argumentsAfter first).mono fun _ _ _ => trivial
    simp only [moreExpressions, bind_eq_bind]
    refine ((recognisesAll bound).expression (by omega)).andThen fun first _ => ?_
    refine recognises_read (fun token left within => ?_) (outcome_unexpected_none (atEnd first))
    by_cases isSeparator : token.kind = separator
    · -- Every separator is a token less, so the rest of the list needs less of the bound.
      rw [if_pos (kindOf_some_eq isSeparator)]
      have rest : Recognises left false []
          ((moreExpressions bound separator delimiter).bind fun rest => pure (first :: rest))
          anything :=
        (ih (by omega)).andThen fun _ _ => recognises_pure trivial
      exact (rest.after [token]).toAnything
    · rw [if_neg (kindOf_some_ne isSeparator)]
      by_cases isDelimiter : token.kind = delimiter
      · rw [if_pos (kindOf_some_eq isDelimiter)]
        exact recognises_pure trivial
      · rw [if_neg (kindOf_some_ne isDelimiter)]
        exact recognises_unexpected (atEnd first)

theorem anything_expressions (separator delimiter : TokenKind)
    (enough : 4 * limit + 6 ≤ bound) :
    Recognises limit looked [] (expressions (bound + 1) separator delimiter) anything := by
  simp only [expressions, bind_eq_bind]
  exact recognises_whenNext (fun _ _ _ _ => recognises_pure trivial)
    (anything_moreExpressions separator delimiter enough)

end Routines

/-! ## Each routine settles

A routine that needs no lead is run with a bound for all tokens.  One that needs a lead first reads
it, and the bound is for the tokens behind it. -/

/-- The bound for a routine that is run on all tokens. -/
def boundForAll (length : Nat) : Nat :=
  4 * length + 8

/-- The bound for a routine that is run behind its lead. -/
def boundBehindLead (length : Nat) : Nat :=
  4 * (length - 1) + 8

theorem settles_of_recognises {routine : Nat → Dialogue α} {phrases : Phrases α}
    (approximates : ∀ {bound larger}, bound ≤ larger →
      Approximates (routine bound) (routine larger))
    (recognises : ∀ limit, Recognises limit false [] (routine (4 * limit + 8)) phrases) :
    Settles boundForAll routine where
  approximates := approximates
  settled tokens := settled_of_outcome (recognises tokens.length tokens (Nat.le_refl _))

theorem settles_withLead {routine : Nat → Option Token → Dialogue α} {phrases : Phrases α}
    (approximates : ∀ {bound larger}, bound ≤ larger → ∀ lead,
      Approximates (routine bound lead) (routine larger lead))
    (atToken : ∀ limit lead,
      Recognises limit false [lead] (routine (4 * limit + 8) (some lead)) phrases)
    (atEnd : Outcome phrases [] ((routine 8 none).on ⟨[], true⟩)) :
    Settles boundBehindLead fun bound => read.bind (routine bound) where
  approximates le := (Approximates.refl _).bind (approximates le)
  settled tokens := by
    cases tokens with
    | nil => exact settled_of_outcome atEnd
    | cons lead rest => exact settled_of_outcome (atToken rest.length lead rest (Nat.le_refl _))

/-- A routine that takes any lead settles behind whatever was read. -/
theorem settles_withAnyLead {routine : Nat → Option Token → Dialogue α}
    (approximates : ∀ {bound larger}, bound ≤ larger → ∀ lead,
      Approximates (routine bound lead) (routine larger lead))
    (recognises : ∀ limit looked lead,
      Recognises limit looked [] (routine (4 * limit + 8) lead) anything) :
    Settles boundBehindLead fun bound => read.bind (routine bound) :=
  settles_withLead approximates
    (fun limit lead => ((recognises limit false (some lead)).after [lead]).toAnything)
    (recognises 0 true none [] (Nat.le_refl _))

theorem settles_program : Settles boundForAll program where
  approximates := approximates_program
  settled _ := (programEnd_on (by simp [boundForAll])).settled

theorem settles_expression : Settles boundForAll expression :=
  settles_of_recognises (fun le => (approximatesAll le).expression)
    fun limit => (recognisesAll (4 * limit + 8)).expression (by omega)

theorem settles_expressions (separator delimiter : TokenKind) :
    Settles boundForAll fun bound => expressions bound separator delimiter :=
  settles_of_recognises (fun le => (approximatesAll le).expressions separator delimiter)
    fun _ => anything_expressions separator delimiter (by omega)

theorem settles_mapVariables : Settles boundForAll mapVariables :=
  settles_of_recognises approximates_mapVariables fun _ => recognises_mapVariables (by omega)

theorem settles_definitions : Settles boundForAll definitions :=
  settles_of_recognises
    (fun le => (Approximates.refl _).bind (approximatesAll le).moreDefinitions)
    fun _ => anything_definitions (by omega)

theorem settles_term : Settles boundBehindLead fun bound => read.bind (term bound) :=
  settles_withLead (fun le => (approximatesAll le).term)
    (fun limit lead => (recognisesAll (4 * limit + 8)).term lead (Nat.le_refl _))
    (outcome_unexpected_none repairable_term)

theorem settles_factor : Settles boundBehindLead fun bound => read.bind (factor bound) :=
  settles_withLead (fun le => (approximatesAll le).factor)
    (fun _ lead => anything_factor lead (by omega))
    (outcome_unexpected_none (repairable_term.mono fun _ _ _ => trivial))

theorem settles_definition : Settles boundBehindLead fun bound => read.bind (definition bound) :=
  settles_withLead (fun le => (approximatesAll le).definition)
    (fun limit lead => (recognisesAll (4 * limit + 8)).definition lead (by omega))
    (outcome_unexpected_none repairable_definition)

theorem settles_conditional : Settles boundBehindLead fun bound => read.bind (conditional bound) :=
  settles_withAnyLead (fun le => (approximatesAll le).conditional)
    fun _ _ lead => anything_conditional lead (by omega)

theorem settles_letIn : Settles boundBehindLead fun bound => read.bind (letIn bound) :=
  settles_withAnyLead (fun le => (approximatesAll le).letIn)
    fun _ _ lead => anything_letIn lead (by omega)

theorem settles_mapTo : Settles boundBehindLead fun bound => read.bind (mapTo bound) :=
  settles_withAnyLead (fun le => (approximatesAll le).mapTo)
    fun _ _ lead => anything_mapTo lead (by omega)

end Dialogue

end JamLang
