import JamLang.Parse.Dialogue

/-!
# Dialogues with a list of tokens

What a routine has before it is a `View`: the tokens that are still to be read, and whether it has
looked beyond the last token that it read.  Holding a dialogue against a view is a plain function
(`Dialogue.on`), so routines can be compared and evaluated without a stream.

The view at the end of a dialogue says how far the routine went.  A routine that has not looked
beyond its last token cannot know what follows it, so it ends in the same way whatever that is; one
that has looked knows the kind of the next token, and no more (`on_append`).
-/

namespace JamLang.Dialogue

variable {α β : Type}

/-- The tokens that are left, and whether the routine has looked beyond the last one it read.
Having read the end counts as having looked. -/
structure View where
  rest : List Token
  looked : Bool
  deriving DecidableEq

namespace View

/-- The view after the next token was read. -/
def afterRead : View → View
  | ⟨[], _⟩ => ⟨[], true⟩
  | ⟨_ :: rest, _⟩ => ⟨rest, false⟩

/-- The view after the next token was looked at. -/
def afterLook (view : View) : View :=
  { view with looked := true }

/-- The view `after` can be reached from the view `before`: what is left gets shorter, or stays and
is looked at. -/
def Reaches (before after : View) : Prop :=
  after.rest.length < before.rest.length ∨
    after.rest = before.rest ∧ (before.looked = true → after.looked = true)

theorem Reaches.refl (view : View) : view.Reaches view :=
  .inr ⟨rfl, id⟩

theorem Reaches.trans {first second third : View} (one : first.Reaches second)
    (two : second.Reaches third) : first.Reaches third := by
  rcases one with shorter | ⟨same, kept⟩ <;> rcases two with shorter' | ⟨same', kept'⟩
  · exact .inl (Nat.lt_trans shorter' shorter)
  · exact .inl (same' ▸ shorter)
  · exact .inl (same ▸ shorter')
  · exact .inr ⟨same'.trans same, kept' ∘ kept⟩

theorem reaches_afterRead (view : View) : view.Reaches view.afterRead := by
  obtain ⟨rest, looked⟩ := view
  cases rest with
  | nil => exact .inr ⟨rfl, fun _ => rfl⟩
  | cons token rest => exact .inl (Nat.lt_succ_self _)

theorem reaches_afterLook (view : View) : view.Reaches view.afterLook :=
  .inr ⟨rfl, fun _ => rfl⟩

end View

/-- What a routine answers when it is held against a view, and what it leaves. -/
def on : Dialogue α → View → Except Fault α × View
  | answer result, view => (result, view)
  | reading reply, view => (reply view.rest.head?).on view.afterRead
  | looking reply, view => (reply (view.rest.head?.map Token.kind)).on view.afterLook

@[simp] theorem kindOf_some (token : Token) : kindOf (some token) = some token.kind := rfl

@[simp] theorem kindOf_none : kindOf none = none := rfl

theorem kindOf_some_eq {token : Token} {kind : TokenKind} (isKind : token.kind = kind) :
    kindOf (some token) = some kind :=
  congrArg some isKind

theorem kindOf_some_ne {token : Token} {kind : TokenKind} (differs : token.kind ≠ kind) :
    kindOf (some token) ≠ some kind :=
  fun same => differs (Option.some.inj same)

/-! ## Evaluation -/

@[simp] theorem bind_eq_bind (first : Dialogue α) (next : α → Dialogue β) :
    first >>= next = first.bind next := rfl

@[simp] theorem on_pure (value : α) (view : View) :
    (pure value : Dialogue α).on view = (.ok value, view) := rfl

@[simp] theorem on_answer (result : Except Fault α) (view : View) :
    (answer result).on view = (result, view) := rfl

@[simp] theorem on_unexpected (found : Option Token) (expected : Expectation) (view : View) :
    (unexpected found expected : Dialogue α).on view =
      (.error (.grammar (.unexpected found expected)), view) := rfl

/-- A routine after another is held against what the first one leaves. -/
theorem on_bind (first : Dialogue α) (next : α → Dialogue β) (view : View) :
    (first.bind next).on view =
      match first.on view with
      | (.ok value, after) => (next value).on after
      | (.error fault, after) => (.error fault, after) := by
  induction first generalizing view with
  | answer result => cases result <;> rfl
  | reading reply ih => exact ih _ _
  | looking reply ih => exact ih _ _

theorem on_bind_ok {first : Dialogue α} {next : α → Dialogue β} {view after : View} {value : α}
    (succeeds : first.on view = (.ok value, after)) :
    (first.bind next).on view = (next value).on after := by
  rw [on_bind, succeeds]

@[simp] theorem answer_ok_bind (value : α) (next : α → Dialogue β) :
    (answer (.ok value)).bind next = next value := rfl

@[simp] theorem pure_bind (value : α) (next : α → Dialogue β) :
    Dialogue.bind (pure value) next = next value := rfl

@[simp] theorem answer_error_bind (fault : Fault) (next : α → Dialogue β) :
    (answer (.error fault)).bind next = answer (.error fault) := rfl

@[simp] theorem unexpected_bind (found : Option Token) (expected : Expectation)
    (next : α → Dialogue β) :
    (unexpected found expected).bind next = unexpected found expected := rfl

@[simp] theorem on_read_cons (next : Option Token → Dialogue α) (token : Token)
    (rest : List Token) (looked : Bool) :
    (read.bind next).on ⟨token :: rest, looked⟩ = (next (some token)).on ⟨rest, false⟩ := rfl

@[simp] theorem on_read_nil (next : Option Token → Dialogue α) (looked : Bool) :
    (read.bind next).on ⟨[], looked⟩ = (next none).on ⟨[], true⟩ := rfl

@[simp] theorem on_peekKind_cons (next : Option TokenKind → Dialogue α) (token : Token)
    (rest : List Token) (looked : Bool) :
    (peekKind.bind next).on ⟨token :: rest, looked⟩ =
      (next (some token.kind)).on ⟨token :: rest, true⟩ := rfl

@[simp] theorem on_peekKind_nil (next : Option TokenKind → Dialogue α) (looked : Bool) :
    (peekKind.bind next).on ⟨[], looked⟩ = (next none).on ⟨[], true⟩ := rfl

/-- A token of the kind that was asked for is read. -/
theorem on_expect_cons {kind : TokenKind} {token : Token} (isKind : token.kind = kind)
    (expected : Expectation) (next : Token → Dialogue α) (rest : List Token) (looked : Bool) :
    ((expect kind expected).bind next).on ⟨token :: rest, looked⟩ =
      (next token).on ⟨rest, false⟩ := by
  have succeeds : (expect kind expected).on ⟨token :: rest, looked⟩ = (.ok token, ⟨rest, false⟩) := by
    simp [expect, isKind]
  exact on_bind_ok succeeds

/-! ## How far a routine goes -/

/-- A routine only ever goes forward. -/
theorem reaches_on (routine : Dialogue α) (view : View) : view.Reaches (routine.on view).2 := by
  induction routine generalizing view with
  | answer => exact .refl view
  | reading reply ih => exact (view.reaches_afterRead).trans (ih _ _)
  | looking reply ih => exact (view.reaches_afterLook).trans (ih _ _)

theorem length_le_of_on {routine : Dialogue α} {view after : View} {result : Except Fault α}
    (ends : routine.on view = (result, after)) : after.rest.length ≤ view.rest.length := by
  have reaches := routine.reaches_on view
  rw [ends] at reaches
  rcases reaches with shorter | ⟨same, -⟩
  · exact Nat.le_of_lt shorter
  · exact Nat.le_of_eq (congrArg List.length same)

/-- A view that was looked at is not left as if it had not been. -/
theorem not_on_of_looked {routine : Dialogue α} {rest : List Token} {result : Except Fault α} :
    routine.on ⟨rest, true⟩ ≠ (result, ⟨rest, false⟩) := by
  intro ends
  have reaches := routine.reaches_on ⟨rest, true⟩
  rw [ends] at reaches
  rcases reaches with shorter | ⟨-, kept⟩
  · exact Nat.lt_irrefl _ shorter
  · exact absurd (kept rfl) Bool.false_ne_true

/-- A routine that has looked beyond the last token it read knows the kind of what follows, and
nothing else about it; one that has not looked does not even know that. -/
theorem on_append {routine : Dialogue α} {consumed rest other : List Token}
    {looked looked' : Bool} {result : Except Fault α}
    (ends : routine.on ⟨consumed ++ rest, looked⟩ = (result, ⟨rest, looked'⟩))
    (alike : looked' = true → other.head?.map Token.kind = rest.head?.map Token.kind) :
    routine.on ⟨consumed ++ other, looked⟩ = (result, ⟨other, looked'⟩) := by
  induction routine generalizing consumed looked with
  | answer result' =>
    obtain ⟨rfl, left⟩ := Prod.mk.inj ends
    obtain ⟨nothing, rfl⟩ := View.mk.inj left
    obtain rfl := List.append_left_eq_self.1 nothing
    rfl
  | reading reply ih =>
    cases consumed with
    | cons token consumed => exact ih (some token) ends
    | nil =>
      -- What follows is left, so it was not read: it is the end, here and there.
      cases rest with
      | cons token rest =>
        have ends : (reply (some token)).on ⟨rest, false⟩ = (result, ⟨token :: rest, looked'⟩) :=
          ends
        exact absurd (length_le_of_on ends) (Nat.not_succ_le_self rest.length)
      | nil =>
        cases looked' with
        | false => exact absurd ends not_on_of_looked
        | true =>
          obtain rfl : other = [] := by simpa using alike rfl
          exact ends
  | looking reply ih =>
    cases consumed with
    | cons token consumed => exact ih (some token.kind) ends
    | nil =>
      cases looked' with
      | false => exact absurd ends not_on_of_looked
      | true =>
        have ends : (reply (rest.head?.map Token.kind)).on ⟨[] ++ rest, true⟩ =
            (result, ⟨rest, true⟩) := ends
        change (reply (other.head?.map Token.kind)).on ⟨other, true⟩ = (result, ⟨other, true⟩)
        rw [alike rfl]
        exact ih _ ends

/-- A routine that has not looked beyond the last token it read ends in the same way whatever
follows that token. -/
theorem on_append_of_not_looked {routine : Dialogue α} {consumed rest : List Token}
    {looked : Bool} {result : Except Fault α}
    (ends : routine.on ⟨consumed ++ rest, looked⟩ = (result, ⟨rest, false⟩))
    (other : List Token) :
    routine.on ⟨consumed ++ other, looked⟩ = (result, ⟨other, false⟩) :=
  on_append ends fun looks => absurd looks Bool.false_ne_true

end JamLang.Dialogue
