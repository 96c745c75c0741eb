import JamLang.Format
import JamLang.Proofs.Tree.Table

/-!
# Trees that can be rendered

Outlines and JSON documents have a notation for every tree, whatever its shape.  What may fail is
the writing of an integer, so a tree whose integers are short enough has an outline and a document.
The constants of a well-formed tree are; a document also writes the locations of all nodes.
-/

namespace JamLang

/-! ## Integers -/

/-- The integer has no more digits than may be written. -/
def Text.IsWritable (value : Int) : Prop :=
  (Nat.toDigits 10 value.natAbs).length ≤ digitLimit

theorem Text.writeInteger_of_isWritable {value : Int} (isWritable : IsWritable value) :
    writeInteger value = .ok (numeral value) :=
  if_pos isWritable

/-- A natural number has no more digits than a larger one. -/
theorem Text.isWritable_of_le {value : Int} {bound : Nat} (notNegative : 0 ≤ value)
    (le : value ≤ bound) (isWritable : IsWritable bound) : IsWritable value := by
  have below : value.natAbs ≤ bound := by omega
  have positive : 0 < (Nat.toDigits 10 bound).length := Nat.length_toDigits_pos
  have fits := (Nat.length_toDigits_le_iff (by decide) positive).1 (Nat.le_refl _)
  have shorter :=
    (Nat.length_toDigits_le_iff (by decide) positive).2 (Nat.lt_of_le_of_lt below fits)
  exact Nat.le_trans shorter isWritable

/-- If the value is an integer, it may be written. -/
def Value.IsWritable (value : Value Node) : Prop :=
  ∀ number, value = .literal (.int number) → Text.IsWritable number

structure Loc.IsWritable (loc : Loc) : Prop where
  line : Text.IsWritable loc.line
  column : Text.IsWritable loc.column

namespace Node

/-! ## Outlines -/

mutual
theorem exists_outline : ∀ node : Node, (∀ part ∈ node.nodes, part.value.IsWritable) →
    ∃ text, node.outline = .ok text
  | .mk kind value children loc type, writable => by
    obtain ⟨ofNode, below⟩ := List.forall_mem_cons.1 writable
    obtain ⟨ofValue, ofChildren⟩ := List.forall_mem_append.1 below
    obtain ⟨valueText, showsValue⟩ := exists_outlineValue value ofNode ofValue
    obtain ⟨childrenText, showsChildren⟩ := exists_outlines outlineWidth children ofChildren
    rw [outline, showsValue, showsChildren]
    exact ⟨_, rfl⟩

theorem exists_outlineValue : ∀ value : Value Node, value.IsWritable →
    (∀ part ∈ nodesValue value, part.value.IsWritable) → ∃ text, outlineValue value = .ok text
  | .literal .null, _, _ => ⟨_, rfl⟩
  | .literal (.bool _), _, _ => ⟨_, rfl⟩
  | .literal (.int number), writable, _ => by
    rw [outlineValue, printInteger, Text.writeInteger_of_isWritable (writable number rfl)]
    exact ⟨_, rfl⟩
  | .text _, _, _ => ⟨_, rfl⟩
  | .node node, _, writable => by
    obtain ⟨text, shows'⟩ := exists_outline node writable
    rw [outlineValue, shows']
    exact ⟨_, rfl⟩

theorem exists_outlines : ∀ (count : Nat) (nodes : List Node),
    (∀ part ∈ nodesAll nodes, part.value.IsWritable) → ∃ text, outlines count nodes = .ok text
  | _, [], _ => ⟨_, rfl⟩
  | 0, _ :: _, _ => ⟨_, rfl⟩
  | count + 1, node :: nodes, writable => by
    obtain ⟨ofFirst, ofRest⟩ := List.forall_mem_append.1 writable
    obtain ⟨first, showsFirst⟩ := exists_outline node ofFirst
    obtain ⟨rest, showsRest⟩ := exists_outlines count nodes ofRest
    rw [outlines, showsFirst, showsRest]
    exact ⟨_, rfl⟩
end

end Node

/-! ## Documents -/

namespace Json

/-- The document has a text at every depth. -/
def IsWritable (document : Json) : Prop :=
  ∀ depth, ∃ text, document.renderAt depth = .ok text

theorem isWritable_int {value : Int} (isWritable : Text.IsWritable value) :
    (Json.int value).IsWritable :=
  fun _ => ⟨_, Text.writeInteger_of_isWritable isWritable⟩

theorem exists_renderItems {items : List Json} (writable : ∀ item ∈ items, item.IsWritable)
    (depth : Nat) : ∃ text, renderItems depth items = .ok text := by
  induction items with
  | nil => exact ⟨_, rfl⟩
  | cons item items ih =>
    obtain ⟨ofFirst, ofRest⟩ := List.forall_mem_cons.1 writable
    obtain ⟨first, showsFirst⟩ := ofFirst depth
    obtain ⟨rest, showsRest⟩ := ih ofRest
    -- No comma follows the last item, so it has an equation of its own.
    cases items with
    | nil => exact ⟨first, showsFirst⟩
    | cons second items =>
      rw [renderItems, showsFirst, showsRest]
      · exact ⟨_, rfl⟩
      · simp

theorem exists_renderMembers {members : List (String × Json)}
    (writable : ∀ field ∈ members, field.2.IsWritable) (depth : Nat) :
    ∃ text, renderMembers depth members = .ok text := by
  induction members with
  | nil => exact ⟨_, rfl⟩
  | cons field members ih =>
    obtain ⟨ofFirst, ofRest⟩ := List.forall_mem_cons.1 writable
    obtain ⟨first, showsFirst⟩ := ofFirst depth
    obtain ⟨rest, showsRest⟩ := ih ofRest
    cases members with
    | nil =>
      rw [renderMembers, showsFirst]
      exact ⟨_, rfl⟩
    | cons second members =>
      rw [renderMembers, showsFirst, showsRest]
      · exact ⟨_, rfl⟩
      · simp

theorem isWritable_array {items : List Json} (writable : ∀ item ∈ items, item.IsWritable) :
    (Json.array items).IsWritable := by
  intro depth
  cases items with
  | nil => exact ⟨_, rfl⟩
  | cons item items =>
    obtain ⟨body, shows'⟩ := exists_renderItems writable (depth + 1)
    rw [renderAt, shows']
    exact ⟨_, rfl⟩

theorem isWritable_object {members : List (String × Json)}
    (writable : ∀ field ∈ members, field.2.IsWritable) : (Json.object members).IsWritable := by
  intro depth
  cases members with
  | nil => exact ⟨_, rfl⟩
  | cons field members =>
    obtain ⟨body, shows'⟩ := exists_renderMembers writable (depth + 1)
    rw [renderAt, shows']
    exact ⟨_, rfl⟩

end Json

namespace Node

/-- The integers of the node itself may be written. -/
structure IsWritable (node : Node) : Prop where
  value : node.value.IsWritable
  loc : node.loc.IsWritable

mutual
theorem isWritable_document : ∀ node : Node, (∀ part ∈ node.nodes, part.IsWritable) →
    node.document.IsWritable
  | .mk kind value children loc type, writable => by
    obtain ⟨ofNode, below⟩ := List.forall_mem_cons.1 writable
    obtain ⟨ofValue, ofChildren⟩ := List.forall_mem_append.1 below
    have typeWritable : ((type.map Json.string).getD .null).IsWritable := by
      cases type <;> exact fun _ => ⟨_, rfl⟩
    refine Json.isWritable_object ?_
    simp only [List.forall_mem_cons, List.not_mem_nil, false_implies, implies_true, and_true]
    exact ⟨fun _ => ⟨_, rfl⟩, isWritable_valueDocument value ofNode.value ofValue,
      Json.isWritable_int ofNode.loc.line, Json.isWritable_int ofNode.loc.column, typeWritable,
      Json.isWritable_array (isWritable_documents children ofChildren)⟩

theorem isWritable_valueDocument : ∀ value : Value Node, value.IsWritable →
    (∀ part ∈ nodesValue value, part.IsWritable) → (valueDocument value).IsWritable
  | .literal .null, _, _ => fun _ => ⟨_, rfl⟩
  | .literal (.bool _), _, _ => fun _ => ⟨_, rfl⟩
  | .literal (.int number), writable, _ => Json.isWritable_int (writable number rfl)
  | .text _, _, _ => fun _ => ⟨_, rfl⟩
  | .node node, _, writable => isWritable_document node writable

theorem isWritable_documents : ∀ nodes : List Node, (∀ part ∈ nodesAll nodes, part.IsWritable) →
    ∀ item ∈ documents nodes, item.IsWritable
  | [], _ => fun _ isItem => absurd isItem List.not_mem_nil
  | node :: nodes, writable => by
    obtain ⟨ofFirst, ofRest⟩ := List.forall_mem_append.1 writable
    exact List.forall_mem_cons.2
      ⟨isWritable_document node ofFirst, isWritable_documents nodes ofRest⟩
end

/-! ## Well-formed trees -/

theorem isWritable_text (text : String) : Value.IsWritable (.text text) := by
  intro number isNumber
  simp at isNumber

theorem isWritable_node (node : Node) : Value.IsWritable (.node node) := by
  intro number isNumber
  simp at isNumber

theorem isWritable_literal {literal : Literal} (notNumber : ∀ number, literal ≠ .int number) :
    Value.IsWritable (.literal literal) := by
  intro number isNumber
  exact absurd (Value.literal.inj isNumber) (notNumber number)

theorem WellFormed.isWritable {role : Role} {tree : Node} (formed : WellFormed role tree) :
    ∀ part ∈ tree.nodes, part.value.IsWritable := by
  intro part isPart
  obtain ⟨role, formed⟩ := formed.of_mem_nodes part isPart
  cases formed with
  | @integer value loc fits =>
    intro number isNumber
    obtain rfl : (value : Int) = number := by simpa [constant, Node.value] using isNumber
    simpa [Text.IsWritable] using fits
  | boolean | null | conditional => exact isWritable_literal (by simp)
  | var | primitive | unary | binary | definition => exact isWritable_text _
  | call | letIn | mapTo => exact isWritable_node _

end Node

end JamLang
