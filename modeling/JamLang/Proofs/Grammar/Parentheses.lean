import JamLang.Proofs.Grammar.Basic

/-!
# Parentheses of phrases

The grammar spends parentheses in two places, around an expression and around the arguments of a
call, and always both of a pair.  So the parentheses of a phrase are nested: no closing one comes
before its opening one, and none is left open.  That is a property of lists of tokens that is kept
when they are put together, so it holds of every phrase by induction on its derivation.
-/

namespace JamLang.Grammar

variable {token opening closing : Token} {kind : TokenKind}
  {tokens first second before : List Token}

/-! ## Open parentheses -/

/-- The number of parentheses that the tokens open, less the number that they close. -/
def depth (tokens : List Token) : Int :=
  (tokens.countP (·.kind = .leftParen) : Int) - tokens.countP (·.kind = .rightParen)

@[simp]
theorem depth_nil : depth [] = 0 := rfl

@[simp]
theorem depth_append : depth (first ++ second) = depth first + depth second := by
  simp only [depth, List.countP_append]
  omega

theorem depth_cons : depth (token :: tokens) = depth [token] + depth tokens := by
  rw [← depth_append, List.singleton_append]

theorem depth_opening (isOpening : token.kind = .leftParen) : depth [token] = 1 := by
  simp [depth, isOpening]

theorem depth_closing (isClosing : token.kind = .rightParen) : depth [token] = -1 := by
  simp [depth, isClosing]

theorem depth_other (isKind : token.kind = kind)
    (isOther : kind ≠ .leftParen ∧ kind ≠ .rightParen) : depth [token] = 0 := by
  simp [depth, isKind, isOther]

/-! ## Nested parentheses -/

/-- No parenthesis is closed that was not opened before, and all are closed at last. -/
structure Nested (tokens : List Token) : Prop where
  nonneg : ∀ before, before <+: tokens → 0 ≤ depth before
  closed : depth tokens = 0

theorem nested_nil : Nested [] where
  nonneg := by
    intro before leads
    rw [List.prefix_nil.1 leads]
    exact Int.le_of_eq depth_nil.symm
  closed := depth_nil

theorem prefix_append_cases (leads : before <+: first ++ second) :
    before <+: first ∨ ∃ more, more <+: second ∧ before = first ++ more := by
  cases List.prefix_or_prefix_of_prefix leads (List.prefix_append first second) with
  | inl within => exact .inl within
  | inr beyond =>
    obtain ⟨more, rfl⟩ := beyond
    exact .inr ⟨more, (List.prefix_append_right_inj first).1 leads, rfl⟩

theorem Nested.append (nested : Nested first) (nested' : Nested second) :
    Nested (first ++ second) where
  nonneg := by
    intro before leads
    rcases prefix_append_cases leads with within | ⟨more, beyond, rfl⟩
    · exact nested.nonneg before within
    · rw [depth_append, nested.closed, Int.zero_add]
      exact nested'.nonneg more beyond
  closed := by rw [depth_append, nested.closed, nested'.closed, Int.add_zero]

theorem nested_other (isKind : token.kind = kind)
    (isOther : kind ≠ .leftParen ∧ kind ≠ .rightParen) : Nested [token] where
  nonneg := by
    intro before leads
    rcases List.prefix_cons_iff.1 leads with rfl | ⟨more, rfl, beyond⟩
    · exact Int.le_refl 0
    · rw [List.prefix_nil.1 beyond]
      exact Int.le_of_eq (depth_other isKind isOther).symm
  closed := depth_other isKind isOther

theorem Nested.cons (isKind : token.kind = kind)
    (isOther : kind ≠ .leftParen ∧ kind ≠ .rightParen) (nested : Nested tokens) :
    Nested (token :: tokens) :=
  (nested_other isKind isOther).append nested

theorem Nested.inParens (isOpening : opening.kind = .leftParen) (nested : Nested tokens)
    (isClosing : closing.kind = .rightParen) : Nested (opening :: (tokens ++ [closing])) := by
  have closed : depth (opening :: (tokens ++ [closing])) = 0 := by
    rw [depth_cons, depth_append, depth_opening isOpening, nested.closed, depth_closing isClosing]
    rfl
  refine ⟨fun before leads => ?_, closed⟩
  rcases List.prefix_cons_iff.1 leads with rfl | ⟨inner, rfl, isInner⟩
  · exact Int.le_refl 0
  · rcases prefix_append_cases isInner with within | ⟨last, isLast, rfl⟩
    · -- The opening parenthesis is still open.
      have nonneg := nested.nonneg inner within
      rw [depth_cons, depth_opening isOpening]
      omega
    · rcases List.prefix_cons_iff.1 isLast with rfl | ⟨more, rfl, beyond⟩
      · rw [List.append_nil, depth_cons, depth_opening isOpening, nested.closed]
        decide
      · rw [List.prefix_nil.1 beyond]
        exact Int.le_of_eq closed.symm

/-! ## Phrases -/

/-- The parentheses of a phrase are nested. -/
theorem nested_of_derives {symbol : Nonterminal} {meaning : symbol.Meaning}
    (derives : Derives symbol tokens meaning) : Nested tokens := by
  induction derives with
  | conditional isIf _ isThen _ isElse _ ihCondition ihConsequence ihOtherwise =>
    have otherwise := Nested.cons isElse (by decide) ihOtherwise
    have branches := Nested.cons isThen (by decide) (ihConsequence.append otherwise)
    exact .cons isIf (by decide) (ihCondition.append branches)
  | letIn isWord _ isLink _ ihHead ihBody | mapTo isWord _ isLink _ ihHead ihBody =>
    have body := Nested.cons isLink (by decide) ihBody
    exact .cons isWord (by decide) (ihHead.append body)
  | operation _ _ ihFirst ihOperations => exact ihFirst.append ihOperations
  | noOperations | noArguments | noVariables => exact nested_nil
  | moreOperations isOperator _ _ _ ihRight ihOperations =>
    exact .cons isOperator (by decide) (ihRight.append ihOperations)
  | unary isOperator _ _ ihOperand => exact .cons isOperator (by decide) ihOperand
  | integer isKind | boolean isKind | null isKind | primitive isKind | identifier isKind
  | lastVariable isKind => exact nested_other isKind (by decide)
  | uncalled _ ih | someArguments _ ih | lastArgument _ ih | someVariables _ ih
  | lastDefinition _ ih => exact ih
  | call _ isOpening _ isClosing ihCallee ihArguments =>
    exact ihCallee.append (.inParens isOpening ihArguments isClosing)
  | group isOpening _ isClosing ihInner => exact .inParens isOpening ihInner isClosing
  | moreArguments _ isComma _ ihFirst ihRest =>
    exact ihFirst.append (.cons isComma (by decide) ihRest)
  | moreVariables isIdentifier isComma _ ihRest =>
    exact .cons isIdentifier (by decide) (.cons isComma (by decide) ihRest)
  | moreDefinitions _ _ ihFirst ihRest => exact ihFirst.append ihRest
  | definition isIdentifier isBind _ isSemicolon ihRight =>
    have right := ihRight.append (nested_other isSemicolon (by decide))
    exact .cons isIdentifier (by decide) (.cons isBind (by decide) right)

end JamLang.Grammar
