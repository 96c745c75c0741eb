import JamLang.Parse.Descent
import JamLang.Proofs.Dialogue.View
import JamLang.Proofs.Tree.Relabeling

/-!
# Parsing goes with relabeling

No routine looks at a name or at a place, so a routine on relabeled tokens does what it does on the
tokens themselves, and its answer is relabeled (`Mirrors`).  Hence relabeling tokens first and
relabeling what they come to is the same (`on_program_relabel`).
-/

namespace JamLang

/-- The view of relabeled tokens. -/
def Relabeling.view (relabel : Relabeling) (view : Dialogue.View) : Dialogue.View :=
  ⟨view.rest.map relabel.token, view.looked⟩

namespace Dialogue

variable {α β : Type} {relabel : Relabeling} {image : α → α} {image' : β → β} {bound : Nat}

/-! ## Routines on relabeled tokens -/

/-- On relabeled tokens the second routine does what the first one does on the tokens, and gives the
relabeled answer. -/
inductive Mirrors (relabel : Relabeling) (image : α → α) : Dialogue α → Dialogue α → Prop where
  | answer (result : Except Fault α) :
      Mirrors relabel image (answer result) (answer (relabel.result image result))
  | reading {reply reply' : Option Token → Dialogue α}
      (replies : ∀ token, Mirrors relabel image (reply token) (reply' (token.map relabel.token))) :
      Mirrors relabel image (reading reply) (reading reply')
  | looking {reply reply' : Option TokenKind → Dialogue α}
      (replies : ∀ kind, Mirrors relabel image (reply kind) (reply' kind)) :
      Mirrors relabel image (looking reply) (looking reply')

theorem Mirrors.bind {first first' : Dialogue α} {next next' : α → Dialogue β}
    (mirrors : Mirrors relabel image first first')
    (goesOn : ∀ value, Mirrors relabel image' (next value) (next' (image value))) :
    Mirrors relabel image' (first.bind next) (first'.bind next') := by
  induction mirrors with
  | answer result =>
    cases result with
    | ok value => exact goesOn value
    | error fault => exact .answer (.error fault)
  | reading _ ih => exact .reading ih
  | looking _ ih => exact .looking ih

theorem Mirrors.on {routine routine' : Dialogue α}
    (mirrors : Mirrors relabel image routine routine') (view : View) :
    routine'.on (relabel.view view) =
      (relabel.result image (routine.on view).1, relabel.view (routine.on view).2) := by
  induction mirrors generalizing view with
  | answer result => rfl
  | @reading reply reply' _ ih =>
    obtain ⟨rest, looked⟩ := view
    cases rest with
    | nil => exact ih none ⟨[], true⟩
    | cons token rest => exact ih (some token) ⟨rest, false⟩
  | @looking reply reply' _ ih =>
    obtain ⟨rest, looked⟩ := view
    cases rest with
    | nil => exact ih none ⟨[], true⟩
    | cons token rest => exact ih (some token.kind) ⟨token :: rest, true⟩

/-! ## Steps -/

theorem mirrors_pure (value : α) : Mirrors relabel image (pure value) (pure (image value)) :=
  .answer (.ok value)

theorem mirrors_tooDeep : Mirrors relabel image tooDeep tooDeep :=
  .answer (.error .tooDeep)

theorem mirrors_unexpected (found : Option Token) (expected : Expectation) :
    Mirrors relabel image (unexpected found expected)
      (unexpected (found.map relabel.token) expected) :=
  .answer (.error (.grammar (.unexpected found expected)))

theorem mirrors_read : Mirrors relabel (Option.map relabel.token) read read :=
  .reading fun token => mirrors_pure token

theorem mirrors_peekKind : Mirrors relabel id peekKind peekKind :=
  .looking fun kind => mirrors_pure kind

theorem mirrors_expect (kind : TokenKind) (expected : Expectation) :
    Mirrors relabel relabel.token (expect kind expected) (expect kind expected) := by
  simp only [expect, bind_eq_bind]
  refine mirrors_read.bind fun next => ?_
  cases next with
  | none => exact mirrors_unexpected none expected
  | some token =>
    have sameKind : (relabel.token token).kind = kind ↔ token.kind = kind := Iff.rfl
    by_cases isKind : token.kind = kind
    · simp only [Option.map_some, if_pos isKind, if_pos (sameKind.2 isKind)]
      exact mirrors_pure token
    · simp only [Option.map_some, if_neg isKind, if_neg (mt sameKind.1 isKind)]
      exact mirrors_unexpected (some token) expected

theorem mirrors_leaf (lead : Option Token) :
    Mirrors relabel relabel.node (leaf lead) (leaf (lead.map relabel.token)) := by
  cases lead with
  | none => exact .answer (.error .noToken)
  | some token =>
    rw [Option.map_some, leaf, leaf, relabel.leaf_token]
    exact .answer (Node.leaf token)

theorem mirrors_unaryOperator (lead : Option Token) :
    Mirrors relabel id (unaryOperator lead) (unaryOperator (lead.map relabel.token)) := by
  cases lead with
  | none => exact .answer (.error .noToken)
  | some token =>
    rw [Option.map_some, unaryOperator, unaryOperator, relabel.unaryOperator_token]
    exact .answer token.unaryOperator

theorem mirrors_binaryOperator (sign : Option Token) :
    Mirrors relabel id (binaryOperator sign) (binaryOperator (sign.map relabel.token)) := by
  cases sign with
  | none => exact .answer (.error .failedAssertion)
  | some token =>
    rw [Option.map_some, binaryOperator, binaryOperator, relabel.binaryOperator_token]
    exact .answer token.binaryOperator

@[simp] theorem kindOf_relabel (lead : Option Token) :
    kindOf (lead.map relabel.token) = kindOf lead := by
  cases lead <;> rfl

/-! ## One routine at a time -/

theorem mirrors_moreVariables (bound : Nat) (lead : Option Token) :
    Mirrors relabel relabel.nodes (moreVariables bound lead)
      (moreVariables bound (lead.map relabel.token)) := by
  induction bound generalizing lead with
  | zero =>
    rw [moreVariables, moreVariables]
    exact mirrors_tooDeep
  | succ bound ih =>
    simp only [moreVariables, bind_eq_bind, kindOf_relabel]
    split
    · refine (mirrors_leaf lead).bind fun first => mirrors_read.bind fun next => ?_
      simp only [kindOf_relabel]
      split
      · exact mirrors_pure [first]
      · split
        · exact mirrors_read.bind fun lead => (ih lead).bind fun rest =>
            mirrors_pure (first :: rest)
        · exact mirrors_unexpected next .toOrComma
    · exact mirrors_unexpected lead .variable

theorem mirrors_mapVariables (bound : Nat) :
    Mirrors relabel relabel.nodes (mapVariables bound) (mapVariables bound) := by
  simp only [mapVariables, bind_eq_bind]
  refine mirrors_read.bind fun lead => ?_
  simp only [kindOf_relabel]
  split
  · exact mirrors_pure []
  · exact mirrors_moreVariables bound lead

/-- Each routine goes with relabeling.  A routine that takes the place of its lead needs to have
one: the end has no place that could be changed. -/
structure MirrorsAll (relabel : Relabeling) (bound : Nat) : Prop where
  expression : Mirrors relabel relabel.node (expression bound) (expression bound)
  operations (left : Node) :
    Mirrors relabel relabel.node (operations bound left) (operations bound (relabel.node left))
  term (lead : Option Token) :
    Mirrors relabel relabel.node (term bound lead) (term bound (lead.map relabel.token))
  application (lead : Option Token) :
    Mirrors relabel relabel.node (application bound lead)
      (application bound (lead.map relabel.token))
  factor (lead : Option Token) :
    Mirrors relabel relabel.node (factor bound lead) (factor bound (lead.map relabel.token))
  conditional (token : Token) :
    Mirrors relabel relabel.node (conditional bound (some token))
      (conditional bound (some (relabel.token token)))
  letIn (token : Token) :
    Mirrors relabel relabel.node (letIn bound (some token))
      (letIn bound (some (relabel.token token)))
  mapTo (token : Token) :
    Mirrors relabel relabel.node (mapTo bound (some token))
      (mapTo bound (some (relabel.token token)))
  expressions (separator delimiter : TokenKind) :
    Mirrors relabel relabel.nodes (expressions bound separator delimiter)
      (expressions bound separator delimiter)
  moreExpressions (separator delimiter : TokenKind) :
    Mirrors relabel relabel.nodes (moreExpressions bound separator delimiter)
      (moreExpressions bound separator delimiter)
  moreDefinitions (lead : Option Token) :
    Mirrors relabel relabel.nodes (moreDefinitions bound lead)
      (moreDefinitions bound (lead.map relabel.token))
  definition (lead : Option Token) :
    Mirrors relabel relabel.node (definition bound lead)
      (definition bound (lead.map relabel.token))

theorem mirrorsAll_zero (relabel : Relabeling) : MirrorsAll relabel 0 := by
  constructor <;> intros <;>
    simp only [expression, operations, term, application, factor, conditional, letIn, mapTo,
      expressions, moreExpressions, moreDefinitions, definition] <;>
    exact mirrors_tooDeep

section Steps

theorem mirrors_expression (ih : MirrorsAll relabel bound) :
    Mirrors relabel relabel.node (expression (bound + 1)) (expression (bound + 1)) := by
  simp only [expression, bind_eq_bind]
  refine mirrors_read.bind fun lead => ?_
  -- Only a word that was read leads to a routine that takes its place.
  cases lead with
  | none => exact (ih.term none).bind ih.operations
  | some token =>
    simp only [Option.map_some, kindOf_some, relabel.kind_token]
    split
    · exact ih.conditional token
    · exact ih.letIn token
    · exact ih.mapTo token
    · exact (ih.term (some token)).bind ih.operations

theorem mirrors_operations (ih : MirrorsAll relabel bound) (left : Node) :
    Mirrors relabel relabel.node (operations (bound + 1) left)
      (operations (bound + 1) (relabel.node left)) := by
  simp only [operations, bind_eq_bind]
  refine mirrors_peekKind.bind fun next => ?_
  simp only [id]
  split
  · refine mirrors_read.bind fun sign => ?_
    cases sign with
    | none => exact .answer (.error .failedAssertion)
    | some token =>
      exact (mirrors_binaryOperator (some token)).bind fun operator =>
        mirrors_read.bind fun lead => (ih.term lead).bind fun right =>
        ih.operations (.binary operator left right token.loc)
  · exact mirrors_pure left

theorem mirrors_term (ih : MirrorsAll relabel bound) (lead : Option Token) :
    Mirrors relabel relabel.node (term (bound + 1) lead)
      (term (bound + 1) (lead.map relabel.token)) := by
  cases lead with
  | none =>
    simp only [term]
    exact ih.application none
  | some token =>
    simp only [term, bind_eq_bind, Option.map_some, kindOf_some, relabel.kind_token]
    split
    · exact (mirrors_unaryOperator (some token)).bind fun operator =>
        mirrors_read.bind fun next => (ih.term next).bind fun operand =>
        mirrors_pure (Node.unary operator operand token.loc)
    · exact mirrors_leaf (some token)
    · exact mirrors_leaf (some token)
    · exact mirrors_leaf (some token)
    · exact ih.application (some token)

theorem mirrors_application (ih : MirrorsAll relabel bound) (lead : Option Token) :
    Mirrors relabel relabel.node (application (bound + 1) lead)
      (application (bound + 1) (lead.map relabel.token)) := by
  simp only [application, bind_eq_bind]
  refine (ih.factor lead).bind fun callee => mirrors_peekKind.bind fun next => ?_
  simp only [id]
  split
  · refine mirrors_read.bind fun _ => (ih.expressions .comma .rightParen).bind fun arguments => ?_
    rw [← relabel.node_call]
    exact mirrors_pure (Node.call callee arguments)
  · exact mirrors_pure callee

theorem mirrors_factor (ih : MirrorsAll relabel bound) (lead : Option Token) :
    Mirrors relabel relabel.node (factor (bound + 1) lead)
      (factor (bound + 1) (lead.map relabel.token)) := by
  simp only [factor, bind_eq_bind, kindOf_relabel]
  split
  · exact ih.expression.bind fun inner =>
      (mirrors_expect .rightParen .closingParen).bind fun _ => mirrors_pure inner
  · exact mirrors_leaf lead
  · exact mirrors_leaf lead
  · exact mirrors_unexpected lead .operand

theorem mirrors_conditional (ih : MirrorsAll relabel bound) (token : Token) :
    Mirrors relabel relabel.node (conditional (bound + 1) (some token))
      (conditional (bound + 1) (some (relabel.token token))) := by
  simp only [conditional, bind_eq_bind]
  exact ih.expression.bind fun condition => (mirrors_expect .thenWord .thenWord).bind fun _ =>
    ih.expression.bind fun consequence => (mirrors_expect .elseWord .elseWord).bind fun _ =>
    ih.expression.bind fun otherwise =>
    mirrors_pure (Node.conditional condition consequence otherwise token.loc)

theorem mirrors_letIn (ih : MirrorsAll relabel bound) (token : Token) :
    Mirrors relabel relabel.node (letIn (bound + 1) (some token))
      (letIn (bound + 1) (some (relabel.token token))) := by
  simp only [letIn, bind_eq_bind]
  exact mirrors_read.bind fun first => (ih.moreDefinitions first).bind fun definitions =>
    ih.expression.bind fun body => mirrors_pure (Node.letIn definitions body token.loc)

theorem mirrors_mapTo (ih : MirrorsAll relabel bound) (token : Token) :
    Mirrors relabel relabel.node (mapTo (bound + 1) (some token))
      (mapTo (bound + 1) (some (relabel.token token))) := by
  simp only [mapTo, bind_eq_bind]
  exact (mirrors_mapVariables bound).bind fun names =>
    ih.expression.bind fun body => mirrors_pure (Node.mapTo names body token.loc)

theorem mirrors_expressions (ih : MirrorsAll relabel bound) (separator delimiter : TokenKind) :
    Mirrors relabel relabel.nodes (expressions (bound + 1) separator delimiter)
      (expressions (bound + 1) separator delimiter) := by
  simp only [expressions, bind_eq_bind]
  refine mirrors_peekKind.bind fun next => ?_
  simp only [id]
  split
  · exact mirrors_read.bind fun _ => mirrors_pure []
  · exact ih.moreExpressions separator delimiter

theorem mirrors_moreExpressions (ih : MirrorsAll relabel bound)
    (separator delimiter : TokenKind) :
    Mirrors relabel relabel.nodes (moreExpressions (bound + 1) separator delimiter)
      (moreExpressions (bound + 1) separator delimiter) := by
  simp only [moreExpressions, bind_eq_bind]
  refine ih.expression.bind fun first => mirrors_read.bind fun next => ?_
  simp only [kindOf_relabel]
  split
  · exact (ih.moreExpressions separator delimiter).bind fun rest => mirrors_pure (first :: rest)
  · split
    · exact mirrors_pure [first]
    · exact mirrors_unexpected next .commaOrParen

theorem mirrors_moreDefinitions (ih : MirrorsAll relabel bound) (lead : Option Token) :
    Mirrors relabel relabel.nodes (moreDefinitions (bound + 1) lead)
      (moreDefinitions (bound + 1) (lead.map relabel.token)) := by
  simp only [moreDefinitions, bind_eq_bind]
  refine (ih.definition lead).bind fun first => mirrors_read.bind fun next => ?_
  simp only [kindOf_relabel]
  split
  · exact mirrors_pure [first]
  · exact (ih.moreDefinitions next).bind fun rest => mirrors_pure (first :: rest)

theorem mirrors_definition (ih : MirrorsAll relabel bound) (lead : Option Token) :
    Mirrors relabel relabel.node (definition (bound + 1) lead)
      (definition (bound + 1) (lead.map relabel.token)) := by
  cases lead with
  | none =>
    simp only [definition]
    exact mirrors_unexpected none .variable
  | some token =>
    obtain ⟨kind, name, loc⟩ := token
    cases kind with
    | identifier =>
      simp only [definition, bind_eq_bind]
      exact (mirrors_expect .bind .bind).bind fun _ => ih.expression.bind fun right =>
        (mirrors_expect .semicolon .semicolon).bind fun _ =>
        mirrors_pure (Node.definition name right loc)
    | _ => exact mirrors_unexpected (some ⟨_, name, loc⟩) .variable

end Steps

theorem mirrorsAll (relabel : Relabeling) (bound : Nat) : MirrorsAll relabel bound := by
  induction bound with
  | zero => exact mirrorsAll_zero relabel
  | succ bound ih =>
    exact {
      expression := mirrors_expression ih
      operations := mirrors_operations ih
      term := mirrors_term ih
      application := mirrors_application ih
      factor := mirrors_factor ih
      conditional := mirrors_conditional ih
      letIn := mirrors_letIn ih
      mapTo := mirrors_mapTo ih
      expressions := mirrors_expressions ih
      moreExpressions := mirrors_moreExpressions ih
      moreDefinitions := mirrors_moreDefinitions ih
      definition := mirrors_definition ih }

/-- Relabeling the tokens of a program relabels what it comes to, and what is left of them. -/
theorem on_program_relabel (relabel : Relabeling) (bound : Nat) (view : View) :
    (program bound).on (relabel.view view) =
      (relabel.result relabel.node ((program bound).on view).1,
        relabel.view ((program bound).on view).2) := by
  refine Mirrors.on ?_ view
  simp only [program, bind_eq_bind]
  refine (mirrorsAll relabel bound).expression.bind fun tree => mirrors_read.bind fun next => ?_
  cases next with
  | none => exact mirrors_pure tree
  | some token => exact .answer (.error (.grammar (.trailing token)))

end Dialogue

end JamLang
