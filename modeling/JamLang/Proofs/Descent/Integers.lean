import JamLang.Parse.Descent
import JamLang.Proofs.Dialogue.View

/-!
# Integers are read where they stand

The text of an integer matters to a routine in one way only: where the grammar has room for an
integer, its value is read at once, and the routine goes on with the leaf or fails.  Where there is
no room for one, all integers are refused alike.  So no routine passes an integer that cannot be
read, and up to the next integer a routine knows neither its text nor what stands behind it
(`integerEnd_of_readsIntegers`).
-/

namespace JamLang.Dialogue

variable {α β : Type}

/-! ## Routines that read integers at once -/

/-- Whenever the routine reads an integer, it makes a leaf of it and goes on with that, or it fails
in the same way for all integers. -/
inductive ReadsIntegers : Dialogue α → Prop where
  | answer (result : Except Fault α) : ReadsIntegers (answer result)
  /-- A look at the next token decides whether to read it. -/
  | whenNext {kind : TokenKind} {next : Option Token → Dialogue α} {otherwise : Dialogue α}
      (notInteger : kind ≠ .integer)
      (matching : ∀ token, token.kind = kind → ReadsIntegers (next (some token)))
      (differing : ReadsIntegers otherwise) :
      ReadsIntegers (looking fun shown => if shown = some kind then reading next else otherwise)
  | refusing {reply : Option Token → Dialogue α} (fault : Token → Fault)
      (refuses : ∀ token, token.kind = .integer →
        reply (some token) = Dialogue.answer (.error (fault token)))
      (others : ∀ token, kindOf token ≠ some .integer → ReadsIntegers (reply token)) :
      ReadsIntegers (reading reply)
  | taking {reply : Option Token → Dialogue α} {next : Node → Dialogue α}
      (takes : ∀ token, token.kind = .integer →
        reply (some token) = (leaf (some token)).bind next)
      (goesOn : ∀ node, ReadsIntegers (next node))
      (others : ∀ token, kindOf token ≠ some .integer → ReadsIntegers (reply token)) :
      ReadsIntegers (reading reply)

theorem bind_assoc {γ : Type} (first : Dialogue α) (second : α → Dialogue β)
    (third : β → Dialogue γ) :
    (first.bind second).bind third = first.bind fun value => (second value).bind third := by
  induction first with
  | answer result => cases result <;> rfl
  | reading reply ih => exact congrArg Dialogue.reading (funext ih)
  | looking reply ih => exact congrArg Dialogue.looking (funext ih)

theorem leaf_bind_pure (token : Option Token) : (leaf token).bind pure = leaf token := by
  cases token with
  | none => rfl
  | some token =>
    rw [leaf]
    cases Node.leaf token <;> rfl

theorem ReadsIntegers.bind {routine : Dialogue α} {follow : α → Dialogue β}
    (first : ReadsIntegers routine) (second : ∀ value, ReadsIntegers (follow value)) :
    ReadsIntegers (routine.bind follow) := by
  induction first with
  | answer result =>
    cases result with
    | ok value => exact second value
    | error fault => exact .answer _
  | @whenNext kind next otherwise notInteger _ _ ihMatching ihDiffering =>
    have same : (looking fun shown =>
        if shown = some kind then reading next else otherwise).bind follow = looking fun shown =>
          if shown = some kind then reading fun token => (next token).bind follow
          else otherwise.bind follow := by
      refine congrArg Dialogue.looking (funext fun shown => ?_)
      dsimp only
      split <;> rfl
    rw [same]
    exact .whenNext notInteger ihMatching ihDiffering
  | refusing fault refuses _ ih =>
    refine .refusing fault (fun token isInteger => ?_) ih
    simp only [refuses token isInteger]
    rfl
  | taking takes _ _ ihNext ihOthers =>
    refine .taking (fun token isInteger => ?_) ihNext ihOthers
    simp only [takes token isInteger, bind_assoc]

/-! ## Routines with a lead -/

/-- The routine, whose lead is read just before it, reads integers at once. -/
abbrev LeadReadsIntegers (routine : Option Token → Dialogue α) : Prop :=
  ReadsIntegers (reading routine)

section Lead

variable {routine other : Option Token → Dialogue α}

theorem ReadsIntegers.afterLead (reads : LeadReadsIntegers routine) {lead : Option Token}
    (notInteger : kindOf lead ≠ some .integer) : ReadsIntegers (routine lead) := by
  cases reads with
  | refusing _ _ others | taking _ _ others => exact others lead notInteger

/-- At an integer the lead is left to another routine. -/
theorem ReadsIntegers.delegating (reads : LeadReadsIntegers other)
    (delegates : ∀ token, token.kind = .integer → routine (some token) = other (some token))
    (others : ∀ lead, kindOf lead ≠ some .integer → ReadsIntegers (routine lead)) :
    LeadReadsIntegers routine := by
  cases reads with
  | refusing fault refuses =>
    exact .refusing fault
      (fun token isInteger => (delegates token isInteger).trans (refuses token isInteger)) others
  | taking takes goesOn =>
    exact .taking (fun token isInteger => (delegates token isInteger).trans (takes token isInteger))
      goesOn others

end Lead

/-! ## Steps -/

theorem readsIntegers_pure (value : α) : ReadsIntegers (pure value : Dialogue α) :=
  .answer _

theorem readsIntegers_unexpected (found : Option Token) (expected : Expectation) :
    ReadsIntegers (unexpected found expected : Dialogue α) :=
  .answer _

theorem readsIntegers_tooDeep : ReadsIntegers (tooDeep : Dialogue α) :=
  .answer _

theorem leadReadsIntegers_tooDeep : LeadReadsIntegers (fun _ => (tooDeep : Dialogue α)) :=
  .refusing (fun _ => .tooDeep) (fun _ _ => rfl) fun _ _ => readsIntegers_tooDeep

theorem readsIntegers_leaf (token : Option Token) : ReadsIntegers (leaf token) := by
  cases token <;> exact .answer _

/-- A routine that refuses an integer because something else was expected. -/
theorem leadReadsIntegers_of_unexpected {routine : Option Token → Dialogue α}
    (expected : Expectation)
    (refuses : ∀ token, token.kind = .integer →
      routine (some token) = unexpected (some token) expected)
    (others : ∀ lead, kindOf lead ≠ some .integer → ReadsIntegers (routine lead)) :
    LeadReadsIntegers routine :=
  .refusing (fun token => .grammar (.unexpected (some token) expected)) refuses others

theorem readsIntegers_expect {kind : TokenKind} (notInteger : kind ≠ .integer)
    (expected : Expectation) : ReadsIntegers (expect kind expected) := by
  refine leadReadsIntegers_of_unexpected expected (fun token isInteger => ?_) fun token _ => ?_
  · have differs : token.kind ≠ kind := fun same => notInteger (same.symm.trans isInteger)
    simp [differs]
  · cases token with
    | none => exact .answer _
    | some token =>
      simp only [pure_bind]
      split <;> exact .answer _

theorem readsIntegers_unaryOperator (token : Option Token) :
    ReadsIntegers (unaryOperator token) := by
  cases token <;> exact .answer _

theorem readsIntegers_binaryOperator (token : Option Token) :
    ReadsIntegers (binaryOperator token) := by
  cases token <;> exact .answer _

/-! ## One routine at a time -/

theorem readsIntegers_moreVariables (bound : Nat) : LeadReadsIntegers (moreVariables bound) := by
  induction bound with
  | zero => exact leadReadsIntegers_tooDeep
  | succ bound ih =>
    refine leadReadsIntegers_of_unexpected .variable (fun token isInteger => ?_) fun lead _ => ?_
    · simp [moreVariables, isInteger]
    · simp only [moreVariables, bind_eq_bind]
      split
      · refine (readsIntegers_leaf lead).bind fun first =>
          leadReadsIntegers_of_unexpected .toOrComma (fun token isInteger => ?_) fun next _ => ?_
        · simp [isInteger]
        · simp only [pure_bind]
          split
          · exact readsIntegers_pure _
          · split
            · exact ih.bind fun _ => readsIntegers_pure _
            · exact readsIntegers_unexpected _ _
      · exact readsIntegers_unexpected _ _

theorem readsIntegers_mapVariables (bound : Nat) : ReadsIntegers (mapVariables bound) := by
  refine (readsIntegers_moreVariables bound).delegating (fun token isInteger => ?_)
    fun lead other => ?_
  · simp [isInteger]
  · simp only [pure_bind]
    split
    · exact readsIntegers_pure _
    · exact (readsIntegers_moreVariables bound).afterLead other

/-- Each routine reads integers at once. -/
structure AllReadIntegers (bound : Nat) : Prop where
  expression : ReadsIntegers (expression bound)
  operations (left : Node) : ReadsIntegers (operations bound left)
  term : LeadReadsIntegers (term bound)
  application : LeadReadsIntegers (application bound)
  factor : LeadReadsIntegers (factor bound)
  conditional (lead : Option Token) : ReadsIntegers (conditional bound lead)
  letIn (lead : Option Token) : ReadsIntegers (letIn bound lead)
  mapTo (lead : Option Token) : ReadsIntegers (mapTo bound lead)
  arguments : ReadsIntegers (arguments bound)
  argumentList : ReadsIntegers (moreExpressions bound .comma .rightParen)
  moreDefinitions : LeadReadsIntegers (moreDefinitions bound)
  definition : LeadReadsIntegers (definition bound)

theorem allReadIntegers_zero : AllReadIntegers 0 := by
  constructor <;> intros <;>
    first
      | exact leadReadsIntegers_tooDeep
      | exact readsIntegers_tooDeep

section Steps

variable {bound : Nat}

theorem readsIntegers_expression (ih : AllReadIntegers bound) :
    ReadsIntegers (expression (bound + 1)) := by
  have operand : LeadReadsIntegers fun lead => (term bound lead).bind (operations bound) :=
    ih.term.bind ih.operations
  refine operand.delegating (fun token isInteger => ?_) fun lead other => ?_
  · simp [isInteger]
  · simp only [pure_bind, bind_eq_bind]
    split
    · exact ih.conditional lead
    · exact ih.letIn lead
    · exact ih.mapTo lead
    · exact operand.afterLead other

theorem readsIntegers_operations (ih : AllReadIntegers bound) (left : Node) :
    ReadsIntegers (operations (bound + 1) left) := by
  refine .whenNext (by decide) (fun sign _ => ?_) (readsIntegers_pure left)
  exact (readsIntegers_binaryOperator sign).bind fun operator =>
    ih.term.bind fun right => ih.operations _

theorem readsIntegers_term (ih : AllReadIntegers bound) : LeadReadsIntegers (term (bound + 1)) := by
  refine .taking (fun token isInteger => ?_) readsIntegers_pure fun lead other => ?_
  · simp [term, isInteger, leaf_bind_pure]
  · simp only [term, bind_eq_bind]
    split
    · exact (readsIntegers_unaryOperator lead).bind fun operator =>
        ih.term.bind fun operand => readsIntegers_pure _
    · next isInteger => exact absurd isInteger other
    · exact readsIntegers_leaf lead
    · exact readsIntegers_leaf lead
    · exact ih.application.afterLead other

theorem readsIntegers_application (ih : AllReadIntegers bound) :
    LeadReadsIntegers (application (bound + 1)) := by
  have called (callee : Node) : ReadsIntegers
      (looking fun shown => if shown = some .leftParen then
        reading fun _ => (arguments bound).bind fun arguments => pure (.call callee arguments)
        else pure callee) :=
    .whenNext (by decide) (fun _ _ => ih.arguments.bind fun _ => readsIntegers_pure _)
      (readsIntegers_pure callee)
  exact ih.factor.bind called

theorem readsIntegers_factor (ih : AllReadIntegers bound) :
    LeadReadsIntegers (factor (bound + 1)) := by
  refine leadReadsIntegers_of_unexpected .operand (fun token isInteger => ?_) fun lead other => ?_
  · simp [factor, isInteger]
  · simp only [factor, bind_eq_bind]
    split
    · exact ih.expression.bind fun inner =>
        (readsIntegers_expect (by decide) _).bind fun _ => readsIntegers_pure inner
    · exact readsIntegers_leaf lead
    · exact readsIntegers_leaf lead
    · exact readsIntegers_unexpected _ _

theorem readsIntegers_conditional (ih : AllReadIntegers bound) (lead : Option Token) :
    ReadsIntegers (conditional (bound + 1) lead) :=
  ih.expression.bind fun _ => (readsIntegers_expect (by decide) _).bind fun _ =>
    ih.expression.bind fun _ => (readsIntegers_expect (by decide) _).bind fun _ =>
    ih.expression.bind fun _ => readsIntegers_pure _

theorem readsIntegers_letIn (ih : AllReadIntegers bound) (lead : Option Token) :
    ReadsIntegers (letIn (bound + 1) lead) :=
  ih.moreDefinitions.bind fun _ => ih.expression.bind fun _ => readsIntegers_pure _

theorem readsIntegers_mapTo (ih : AllReadIntegers bound) (lead : Option Token) :
    ReadsIntegers (mapTo (bound + 1) lead) :=
  (readsIntegers_mapVariables bound).bind fun _ => ih.expression.bind fun _ => readsIntegers_pure _

theorem readsIntegers_arguments (ih : AllReadIntegers bound) :
    ReadsIntegers (arguments (bound + 1)) :=
  .whenNext (by decide) (fun _ _ => readsIntegers_pure []) ih.argumentList

theorem readsIntegers_argumentList (ih : AllReadIntegers bound) :
    ReadsIntegers (moreExpressions (bound + 1) .comma .rightParen) := by
  simp only [moreExpressions, bind_eq_bind]
  refine ih.expression.bind fun first =>
    leadReadsIntegers_of_unexpected .commaOrParen (fun token isInteger => ?_) fun next _ => ?_
  · simp [isInteger]
  · simp only [pure_bind]
    split
    · exact ih.argumentList.bind fun _ => readsIntegers_pure _
    · split
      · exact readsIntegers_pure _
      · exact readsIntegers_unexpected _ _

theorem readsIntegers_moreDefinitions (ih : AllReadIntegers bound) :
    LeadReadsIntegers (moreDefinitions (bound + 1)) := by
  refine ih.definition.bind fun first => ?_
  have more : LeadReadsIntegers fun next =>
      (moreDefinitions bound next).bind fun rest => pure (first :: rest) :=
    ih.moreDefinitions.bind fun _ => readsIntegers_pure _
  refine more.delegating (fun token isInteger => ?_) fun next other => ?_
  · simp [isInteger]
  · simp only [pure_bind, bind_eq_bind]
    split
    · exact readsIntegers_pure _
    · exact more.afterLead other

theorem readsIntegers_definition (ih : AllReadIntegers bound) :
    LeadReadsIntegers (definition (bound + 1)) := by
  refine leadReadsIntegers_of_unexpected .variable (fun token isInteger => ?_) fun lead _ => ?_
  · obtain ⟨kind, text, loc⟩ := token
    obtain rfl : kind = .integer := isInteger
    rfl
  · simp only [definition, bind_eq_bind]
    split
    · exact (readsIntegers_expect (by decide) _).bind fun _ => ih.expression.bind fun _ =>
        (readsIntegers_expect (by decide) _).bind fun _ => readsIntegers_pure _
    · exact readsIntegers_unexpected _ _

end Steps

theorem allReadIntegers (bound : Nat) : AllReadIntegers bound := by
  induction bound with
  | zero => exact allReadIntegers_zero
  | succ bound ih =>
    exact {
      expression := readsIntegers_expression ih
      operations := readsIntegers_operations ih
      term := readsIntegers_term ih
      application := readsIntegers_application ih
      factor := readsIntegers_factor ih
      conditional := readsIntegers_conditional ih
      letIn := readsIntegers_letIn ih
      mapTo := readsIntegers_mapTo ih
      arguments := readsIntegers_arguments ih
      argumentList := readsIntegers_argumentList ih
      moreDefinitions := readsIntegers_moreDefinitions ih
      definition := readsIntegers_definition ih }

theorem readsIntegers_program (bound : Nat) : ReadsIntegers (program bound) := by
  refine (allReadIntegers bound).expression.bind fun tree =>
    .refusing (fun token => .grammar (.trailing token)) (fun _ _ => rfl) fun next _ => ?_
  cases next <;> exact .answer _

/-! ## Up to the next integer -/

/-- What a routine does when an integer stands behind the given tokens, whatever that integer is
and whatever follows it. -/
inductive IntegerEnd (routine : Dialogue α) (before : List Token) (looked : Bool) : Prop where
  /-- The integer is left. -/
  | left (result : Except Fault α) (left : List Token) (looked' : Bool)
      (ends : ∀ token rest, token.kind = .integer →
        routine.on ⟨before ++ token :: rest, looked⟩ = (result, ⟨left ++ token :: rest, looked'⟩))
  /-- The integer is read and refused. -/
  | refused (fault : Token → Fault)
      (ends : ∀ token rest, token.kind = .integer →
        routine.on ⟨before ++ token :: rest, looked⟩ = (.error (fault token), ⟨rest, false⟩))
  /-- The integer is read and becomes a leaf. -/
  | taken (next : Node → Dialogue α)
      (ends : ∀ token rest, token.kind = .integer →
        routine.on ⟨before ++ token :: rest, looked⟩ =
          ((leaf (some token)).bind next).on ⟨rest, false⟩)

theorem IntegerEnd.congr {routine other : Dialogue α} {before before' : List Token}
    {looked looked' : Bool} (integerEnd : IntegerEnd other before' looked')
    (same : ∀ token rest, token.kind = .integer →
      routine.on ⟨before ++ token :: rest, looked⟩ = other.on ⟨before' ++ token :: rest, looked'⟩) :
    IntegerEnd routine before looked := by
  cases integerEnd with
  | left result left looked'' ends =>
    exact .left result left looked'' fun token rest isInteger =>
      (same token rest isInteger).trans (ends token rest isInteger)
  | refused fault ends =>
    exact .refused fault fun token rest isInteger =>
      (same token rest isInteger).trans (ends token rest isInteger)
  | taken next ends =>
    exact .taken next fun token rest isInteger =>
      (same token rest isInteger).trans (ends token rest isInteger)

/-- A routine that reads integers at once leaves the next one, refuses it or makes a leaf of it, and
which of these it does depends on the tokens before it alone. -/
theorem integerEnd_of_readsIntegers {routine : Dialogue α} (reads : ReadsIntegers routine)
    (before : List Token) (looked : Bool) : IntegerEnd routine before looked := by
  -- The routine goes through the tokens before the integer one at a time; what it does at the
  -- integer itself is seen when none of them is left.
  induction reads generalizing before looked with
  | answer result => exact .left result before looked fun _ _ _ => rfl
  | @whenNext kind next otherwise notInteger _ _ ihMatching ihDiffering =>
    cases before with
    | nil =>
      refine (ihDiffering [] true).congr fun token rest isInteger => ?_
      have differs : ¬ token.kind = kind := fun same => notInteger (same.symm.trans isInteger)
      simp [on, View.afterLook, differs]
    | cons first before =>
      by_cases same : first.kind = kind
      · refine (ihMatching first same before false).congr fun token rest _ => ?_
        simp [on, View.afterLook, View.afterRead, same]
      · refine (ihDiffering (first :: before) true).congr fun token rest _ => ?_
        simp [on, View.afterLook, same]
  | refusing fault refuses _ ihOthers =>
    cases before with
    | nil =>
      refine .refused fault fun token rest isInteger => ?_
      simp [on, View.afterRead, refuses token isInteger]
    | cons first before =>
      by_cases isInteger : first.kind = .integer
      · refine .left (.error (fault first)) before false fun token rest _ => ?_
        simp [on, View.afterRead, refuses first isInteger]
      · exact (ihOthers (some first) (kindOf_some_ne isInteger) before false).congr fun _ _ _ => rfl
  | @taking reply next takes _ _ ihNext ihOthers =>
    cases before with
    | nil =>
      refine .taken next fun token rest isInteger => ?_
      simp [on, View.afterRead, takes token isInteger]
    | cons first before =>
      by_cases isInteger : first.kind = .integer
      · -- An earlier integer is made a leaf, and the routine goes on only if it can be read.
        cases isLeaf : Node.leaf first with
        | ok node =>
          refine (ihNext node before false).congr fun token rest _ => ?_
          simp [on, View.afterRead, takes first isInteger, leaf, isLeaf]
        | error fault =>
          refine .left (.error fault) before false fun token rest _ => ?_
          simp [on, View.afterRead, takes first isInteger, leaf, isLeaf]
      · exact (ihOthers (some first) (kindOf_some_ne isInteger) before false).congr fun _ _ _ => rfl

theorem leaf_of_unreadable {token : Token} {fault : Text.NumeralFault}
    (isInteger : token.kind = .integer) (fails : Text.readInteger token.text = .error fault) :
    leaf (some token) = answer (.error (.numeral fault)) := by
  simp [leaf, Node.leaf, Node.constantLeaf, Token.literal, isInteger, fails]

/-- An integer that cannot be read is left, or it is the last token read and the routine fails. -/
theorem stops_of_unreadable {routine : Dialogue α} (reads : ReadsIntegers routine)
    {before rest : List Token} {token : Token} {looked : Bool} {fault : Text.NumeralFault}
    {result : Except Fault α} {after : View} (isInteger : token.kind = .integer)
    (fails : Text.readInteger token.text = .error fault)
    (ends : routine.on ⟨before ++ token :: rest, looked⟩ = (result, after)) :
    (∃ left, after.rest = left ++ token :: rest) ∨
      after = ⟨rest, false⟩ ∧ ∃ cause, result = .error cause := by
  cases integerEnd_of_readsIntegers reads before looked with
  | left result left looked' ends' =>
    obtain ⟨-, rfl⟩ := Prod.mk.inj (ends.symm.trans (ends' token rest isInteger))
    exact .inl ⟨left, rfl⟩
  | refused cause ends' =>
    obtain ⟨rfl, rfl⟩ := Prod.mk.inj (ends.symm.trans (ends' token rest isInteger))
    exact .inr ⟨rfl, _, rfl⟩
  | taken next ends' =>
    have ends' := ends' token rest isInteger
    rw [leaf_of_unreadable isInteger fails, answer_error_bind, on_answer] at ends'
    obtain ⟨rfl, rfl⟩ := Prod.mk.inj (ends.symm.trans ends')
    exact .inr ⟨rfl, _, rfl⟩

end JamLang.Dialogue
