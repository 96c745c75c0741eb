import JamLang.Format
import JamLang.Proofs.Json.Rendering

/-!
# Trees are known by their documents

The document of a tree keeps all its parts apart: nothing, booleans, integers, texts and nested
nodes are different sorts of documents.  So trees have the same document only if they are equal, and
as a document is known by its text, the same holds of the texts that are shown.
-/

namespace JamLang

namespace Node

/-- Nodes are objects, and no other value is. -/
theorem document_ne_valueDocument (node : Node) (value : Value Node)
    (notNode : ∀ other, value ≠ .node other) :
    document node ≠ valueDocument value := by
  obtain ⟨kind, own, children, loc, type⟩ := node
  cases value with
  | literal literal => cases literal <;> simp [document, valueDocument]
  | text text => simp [document, valueDocument]
  | node other => exact absurd rfl (notNode other)

theorem typeDocument_inj {type type' : Option String}
    (same : (type.map Json.string).getD .null = (type'.map Json.string).getD .null) :
    type = type' := by
  cases type <;> cases type' <;> simp_all

mutual
theorem document_inj : ∀ a b : Node, document a = document b → a = b
  | .mk kind value children loc type, .mk kind' value' children' loc' type', same => by
    simp only [document, Json.object.injEq, List.cons.injEq, Prod.mk.injEq, Json.string.injEq,
      Json.int.injEq, Json.array.injEq, true_and, and_true] at same
    obtain ⟨sameKind, sameValue, sameLine, sameColumn, sameType, sameChildren⟩ := same
    obtain rfl := NodeKind.name_inj.1 sameKind
    obtain rfl := valueDocument_inj value value' sameValue
    obtain rfl := documents_inj children children' sameChildren
    obtain rfl := typeDocument_inj sameType
    obtain ⟨line, column⟩ := loc
    obtain ⟨line', column'⟩ := loc'
    obtain rfl : line = line' := sameLine
    obtain rfl : column = column' := sameColumn
    rfl

theorem valueDocument_inj : ∀ a b : Value Node, valueDocument a = valueDocument b → a = b
  | .literal a, .literal b, same => by
    cases a <;> cases b <;> simp_all [valueDocument]
  | .text a, .text b, same => by simpa [valueDocument] using same
  | .node a, .node b, same => by
    obtain rfl := document_inj a b (by simpa [valueDocument] using same)
    rfl
  | .literal a, .text b, same | .text b, .literal a, same => by
    cases a <;> simp [valueDocument] at same
  | .node a, .literal b, same => (document_ne_valueDocument a (.literal b) nofun same).elim
  | .node a, .text b, same => (document_ne_valueDocument a (.text b) nofun same).elim
  | .literal a, .node b, same => (document_ne_valueDocument b (.literal a) nofun same.symm).elim
  | .text a, .node b, same => (document_ne_valueDocument b (.text a) nofun same.symm).elim

theorem documents_inj : ∀ as bs : List Node, documents as = documents bs → as = bs
  | [], [], _ => rfl
  | [], _ :: _, same | _ :: _, [], same => by simp [documents] at same
  | a :: as, b :: bs, same => by
    obtain ⟨sameFirst, sameRest⟩ := List.cons.inj same
    obtain rfl := document_inj a b sameFirst
    obtain rfl := documents_inj as bs sameRest
    rfl
end

end Node

theorem render_document_of_formatChosen {tree : Node} {text : String}
    (shown : formatChosen Format.json.choice tree = .ok text) :
    tree.document.render = .ok text := by
  rw [formatChosen_choice, Format.render] at shown
  cases isText : tree.document.render with
  | ok text' =>
    rw [isText] at shown
    exact congrArg Except.ok (Except.ok.inj shown)
  | error fault =>
    rw [isText] at shown
    cases shown

/-- Trees are shown alike as documents if and only if they are equal, in plain texts. -/
theorem documents_faithful (a b : Node) (textA textB : String)
    (shownA : formatChosen Format.json.choice a = .ok textA)
    (shownB : formatChosen Format.json.choice b = .ok textB) :
    (textA = textB ↔ a.beq b = true) ∧ ∀ c ∈ textA.toList, Text.IsPlain c := by
  have isTextA := render_document_of_formatChosen shownA
  have isTextB := render_document_of_formatChosen shownB
  refine ⟨?_, Json.isPlain_of_mem_render isTextA⟩
  rw [Node.beq_iff]
  constructor
  · rintro rfl
    exact Node.document_inj a b (Json.render_inj isTextA isTextB)
  · rintro rfl
    exact Except.ok.inj (isTextA.symm.trans isTextB)

/-- Two constants that only differ in that one is true and the other is the number one, both of a
type that is no plain text. -/
theorem documents_faithful_constants :
    let type := String.ofList ['\x7f', Char.ofNat 0x10400]
    let isTrue : Node := .mk .constant (.literal (.bool true)) [] ⟨1, 1⟩ (some type)
    let isOne : Node := .mk .constant (.literal (.int 1)) [] ⟨1, 1⟩ (some type)
    ∃ textA textB, formatChosen Format.json.choice isTrue = .ok textA ∧
      formatChosen Format.json.choice isOne = .ok textB ∧ textA ≠ textB ∧
      ∀ c ∈ textA.toList, Text.IsPlain c := by
  intro type isTrue isOne
  obtain ⟨textA, shownA⟩ : ∃ text, formatChosen Format.json.choice isTrue = .ok text := ⟨_, rfl⟩
  obtain ⟨textB, shownB⟩ : ∃ text, formatChosen Format.json.choice isOne = .ok text := ⟨_, rfl⟩
  obtain ⟨alike, arePlain⟩ := documents_faithful isTrue isOne textA textB shownA shownB
  have differ : isTrue.beq isOne ≠ true := by decide
  exact ⟨textA, textB, shownA, shownB, mt alike.1 differ, arePlain⟩

end JamLang
