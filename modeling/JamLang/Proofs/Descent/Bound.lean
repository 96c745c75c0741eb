import JamLang.Parse.Descent
import JamLang.Proofs.Dialogue.View

/-!
# The bound on the depth of calls

A larger bound changes nothing but answers that the bound was too small: whatever else a routine
answers, it answers with every larger bound too.
-/

namespace JamLang.Dialogue

variable {α β : Type}

/-- The second routine ends as the first one does, unless the first one gives up. -/
def Approximates (smaller larger : Dialogue α) : Prop :=
  ∀ view, (smaller.on view).1 = .error .tooDeep ∨ larger.on view = smaller.on view

theorem Approximates.refl (routine : Dialogue α) : Approximates routine routine :=
  fun _ => .inr rfl

theorem approximates_of_tooDeep (routine : Dialogue α) : Approximates tooDeep routine :=
  fun _ => .inl rfl

theorem Approximates.bind {smaller larger : Dialogue α} {next next' : α → Dialogue β}
    (first : Approximates smaller larger)
    (second : ∀ value, Approximates (next value) (next' value)) :
    Approximates (smaller.bind next) (larger.bind next') := by
  intro view
  simp only [on_bind]
  rcases first view with gaveUp | same
  · left
    generalize smaller.on view = ending at gaveUp
    obtain ⟨result, after⟩ := ending
    obtain rfl : result = .error .tooDeep := gaveUp
    rfl
  · rw [same]
    obtain ⟨result, after⟩ := smaller.on view
    cases result with
    | ok value => exact second value after
    | error fault => exact .inr rfl

/-! ## One routine at a time -/

theorem approximates_moreVariables {bound larger : Nat} (le : bound ≤ larger)
    (lead : Option Token) : Approximates (moreVariables bound lead) (moreVariables larger lead) := by
  induction bound generalizing larger lead with
  | zero =>
    rw [moreVariables]
    exact approximates_of_tooDeep _
  | succ bound ih =>
    obtain ⟨larger, rfl⟩ := Nat.exists_eq_add_of_le' (Nat.one_le_of_lt le)
    simp only [moreVariables, bind_eq_bind]
    split
    · refine (Approximates.refl _).bind fun first => (Approximates.refl _).bind fun next => ?_
      split
      · exact .refl _
      · split
        · exact (Approximates.refl _).bind fun lead =>
            (ih (Nat.le_of_succ_le_succ le) lead).bind fun _ => .refl _
        · exact .refl _
    · exact .refl _

theorem approximates_mapVariables {bound larger : Nat} (le : bound ≤ larger) :
    Approximates (mapVariables bound) (mapVariables larger) := by
  simp only [mapVariables, bind_eq_bind]
  refine (Approximates.refl _).bind fun lead => ?_
  split
  · exact .refl _
  · exact approximates_moreVariables le lead

/-- Each routine answers alike with every larger bound, unless it gives up. -/
structure ApproximatesAll (bound larger : Nat) : Prop where
  expression :
    Approximates (expression bound) (expression larger)
  operations (left : Node) :
    Approximates (operations bound left) (operations larger left)
  term (lead : Option Token) :
    Approximates (term bound lead) (term larger lead)
  application (lead : Option Token) :
    Approximates (application bound lead) (application larger lead)
  factor (lead : Option Token) :
    Approximates (factor bound lead) (factor larger lead)
  conditional (lead : Option Token) :
    Approximates (conditional bound lead) (conditional larger lead)
  letIn (lead : Option Token) :
    Approximates (letIn bound lead) (letIn larger lead)
  mapTo (lead : Option Token) :
    Approximates (mapTo bound lead) (mapTo larger lead)
  expressions (separator delimiter : TokenKind) :
    Approximates (expressions bound separator delimiter) (expressions larger separator delimiter)
  moreExpressions (separator delimiter : TokenKind) :
    Approximates (moreExpressions bound separator delimiter)
      (moreExpressions larger separator delimiter)
  moreDefinitions (lead : Option Token) :
    Approximates (moreDefinitions bound lead) (moreDefinitions larger lead)
  definition (lead : Option Token) :
    Approximates (definition bound lead) (definition larger lead)

theorem approximatesAll_zero (larger : Nat) : ApproximatesAll 0 larger := by
  constructor <;> intros <;>
    simp only [expression, operations, term, application, factor, conditional, letIn, mapTo,
      expressions, moreExpressions, moreDefinitions, definition] <;>
    exact approximates_of_tooDeep _

section Steps

variable {bound larger : Nat}

theorem approximates_expression (ih : ApproximatesAll bound larger) :
    Approximates (expression (bound + 1)) (expression (larger + 1)) := by
  simp only [expression, bind_eq_bind]
  refine (Approximates.refl _).bind fun lead => ?_
  split
  · exact ih.conditional lead
  · exact ih.letIn lead
  · exact ih.mapTo lead
  · exact (ih.term lead).bind ih.operations

theorem approximates_operations (ih : ApproximatesAll bound larger) (left : Node) :
    Approximates (operations (bound + 1) left) (operations (larger + 1) left) := by
  simp only [operations, bind_eq_bind]
  refine (Approximates.refl _).bind fun next => ?_
  split
  · exact (Approximates.refl _).bind fun sign => (Approximates.refl _).bind fun operator =>
      (Approximates.refl _).bind fun lead => (ih.term lead).bind fun right =>
      ih.operations (.binary operator left right (locOf sign))
  · exact .refl _

theorem approximates_term (ih : ApproximatesAll bound larger)
    (lead : Option Token) : Approximates (term (bound + 1) lead) (term (larger + 1) lead) := by
  simp only [term, bind_eq_bind]
  split
  · exact (Approximates.refl _).bind fun operator => (Approximates.refl _).bind fun next =>
      (ih.term next).bind fun _ => .refl _
  · exact .refl _
  · exact .refl _
  · exact .refl _
  · exact ih.application lead

theorem approximates_application (ih : ApproximatesAll bound larger)
    (lead : Option Token) :
    Approximates (application (bound + 1) lead) (application (larger + 1) lead) := by
  simp only [application, bind_eq_bind]
  refine (ih.factor lead).bind fun callee => (Approximates.refl _).bind fun next => ?_
  split
  · exact (Approximates.refl _).bind fun _ =>
      (ih.expressions .comma .rightParen).bind fun _ => .refl _
  · exact .refl _

theorem approximates_factor (ih : ApproximatesAll bound larger)
    (lead : Option Token) : Approximates (factor (bound + 1) lead) (factor (larger + 1) lead) := by
  simp only [factor, bind_eq_bind]
  split
  · exact (ih.expression).bind fun _ => .refl _
  · exact .refl _
  · exact .refl _
  · exact .refl _

theorem approximates_conditional (ih : ApproximatesAll bound larger)
    (lead : Option Token) :
    Approximates (conditional (bound + 1) lead) (conditional (larger + 1) lead) := by
  simp only [conditional, bind_eq_bind]
  exact (ih.expression).bind fun _ => (Approximates.refl _).bind fun _ =>
    (ih.expression).bind fun _ => (Approximates.refl _).bind fun _ =>
    (ih.expression).bind fun _ => .refl _

theorem approximates_letIn (ih : ApproximatesAll bound larger)
    (lead : Option Token) : Approximates (letIn (bound + 1) lead) (letIn (larger + 1) lead) := by
  simp only [letIn, bind_eq_bind]
  exact (Approximates.refl _).bind fun first => (ih.moreDefinitions first).bind fun _ =>
    (ih.expression).bind fun _ => .refl _

theorem approximates_mapTo (ih : ApproximatesAll bound larger) (le : bound ≤ larger)
    (lead : Option Token) : Approximates (mapTo (bound + 1) lead) (mapTo (larger + 1) lead) := by
  simp only [mapTo, bind_eq_bind]
  exact (approximates_mapVariables le).bind fun _ => (ih.expression).bind fun _ => .refl _

theorem approximates_expressions (ih : ApproximatesAll bound larger)
    (separator delimiter : TokenKind) :
    Approximates (expressions (bound + 1) separator delimiter)
      (expressions (larger + 1) separator delimiter) := by
  simp only [expressions, bind_eq_bind]
  refine (Approximates.refl _).bind fun next => ?_
  split
  · exact .refl _
  · exact ih.moreExpressions separator delimiter

theorem approximates_moreExpressions (ih : ApproximatesAll bound larger)
    (separator delimiter : TokenKind) :
    Approximates (moreExpressions (bound + 1) separator delimiter)
      (moreExpressions (larger + 1) separator delimiter) := by
  simp only [moreExpressions, bind_eq_bind]
  refine (ih.expression).bind fun first => (Approximates.refl _).bind fun next => ?_
  split
  · exact (ih.moreExpressions separator delimiter).bind fun _ => .refl _
  · exact .refl _

theorem approximates_moreDefinitions (ih : ApproximatesAll bound larger)
    (lead : Option Token) :
    Approximates (moreDefinitions (bound + 1) lead) (moreDefinitions (larger + 1) lead) := by
  simp only [moreDefinitions, bind_eq_bind]
  refine (ih.definition lead).bind fun first => (Approximates.refl _).bind fun next => ?_
  split
  · exact .refl _
  · exact (ih.moreDefinitions next).bind fun _ => .refl _

theorem approximates_definition (ih : ApproximatesAll bound larger)
    (lead : Option Token) :
    Approximates (definition (bound + 1) lead) (definition (larger + 1) lead) := by
  simp only [definition, bind_eq_bind]
  split
  · exact (Approximates.refl _).bind fun _ => (ih.expression).bind fun _ => .refl _
  · exact .refl _

end Steps

/-- Each routine answers alike with every larger bound, unless it gives up. -/
theorem approximatesAll {bound larger : Nat} (le : bound ≤ larger) :
    ApproximatesAll bound larger := by
  induction bound generalizing larger with
  | zero => exact approximatesAll_zero larger
  | succ bound ih =>
    obtain ⟨larger, rfl⟩ := Nat.exists_eq_add_of_le' (Nat.one_le_of_lt le)
    -- Both bounds shrink in a call, so the larger one is not fixed in the induction.
    have le : bound ≤ larger := Nat.le_of_succ_le_succ le
    have ih : ApproximatesAll bound larger := ih le
    exact {
      expression := approximates_expression ih
      operations := approximates_operations ih
      term := approximates_term ih
      application := approximates_application ih
      factor := approximates_factor ih
      conditional := approximates_conditional ih
      letIn := approximates_letIn ih
      mapTo := approximates_mapTo ih le
      expressions := approximates_expressions ih
      moreExpressions := approximates_moreExpressions ih
      moreDefinitions := approximates_moreDefinitions ih
      definition := approximates_definition ih }

/-! ## Bounds that suffice -/

/-- On every list of tokens the bound that goes with its length is large enough. -/
structure Suffices (enough : Nat → Nat) (routine : Nat → Dialogue α) : Prop where
  approximates {bound larger : Nat} (le : bound ≤ larger) :
    Approximates (routine bound) (routine larger)
  ne_tooDeep (tokens : List Token) :
    ((routine (enough tokens.length)).on ⟨tokens, false⟩).1 ≠ .error .tooDeep

namespace Suffices

variable {enough : Nat → Nat} {routine : Nat → Dialogue α} {consumed rest : List Token}
  {result : Except Fault α} {looked : Bool}

/-- What the routine comes to does not depend on the bound. -/
theorem on_of_le (holds : Suffices enough routine) {tokens : List Token} {bound : Nat}
    (le : enough tokens.length ≤ bound) :
    (routine bound).on ⟨tokens, false⟩ = (routine (enough tokens.length)).on ⟨tokens, false⟩ :=
  (holds.approximates le _).resolve_left (holds.ne_tooDeep tokens)

/-- The bounds for two lists differ, but what a routine does with one list and one bound it does
with the other list and its bound, if one bound for both carries it over. -/
theorem on_of_shared (holds : Suffices enough routine) {tokens other : List Token}
    {ending ending' : Except Fault α × View}
    (ends : (routine (enough tokens.length)).on ⟨tokens, false⟩ = ending)
    (carries : ∀ bound, (routine bound).on ⟨tokens, false⟩ = ending →
      (routine bound).on ⟨other, false⟩ = ending') :
    (routine (enough other.length)).on ⟨other, false⟩ = ending' := by
  have shared := carries (enough tokens.length + enough other.length)
    ((holds.on_of_le (Nat.le_add_right _ _)).trans ends)
  rwa [holds.on_of_le (Nat.le_add_left _ _)] at shared

theorem on_append (holds : Suffices enough routine) {other : List Token}
    (ends : (routine (enough (consumed ++ rest).length)).on ⟨consumed ++ rest, false⟩ =
      (result, ⟨rest, looked⟩))
    (alike : looked = true → other.head?.map Token.kind = rest.head?.map Token.kind) :
    (routine (enough (consumed ++ other).length)).on ⟨consumed ++ other, false⟩ =
      (result, ⟨other, looked⟩) :=
  holds.on_of_shared ends fun _ ends => Dialogue.on_append ends alike

theorem on_append_of_not_looked (holds : Suffices enough routine)
    (ends : (routine (enough (consumed ++ rest).length)).on ⟨consumed ++ rest, false⟩ =
      (result, ⟨rest, false⟩)) (other : List Token) :
    (routine (enough (consumed ++ other).length)).on ⟨consumed ++ other, false⟩ =
      (result, ⟨other, false⟩) :=
  holds.on_of_shared ends fun _ ends => Dialogue.on_append_of_not_looked ends other

end Suffices

theorem approximates_program {bound larger : Nat} (le : bound ≤ larger) :
    Approximates (program bound) (program larger) :=
  (approximatesAll le).expression.bind fun _ => .refl _

end JamLang.Dialogue
