import JamLang.Proofs.Json.Escape
import JamLang.Proofs.Results
import JamLang.Proofs.Text.Numeral

/-!
# Documents are known by their texts

The texts of documents form a language of their own (`Written`).  What a document is can be seen
from its first character, and behind every line of an array or an object, whether another one
follows.  So two documents whose texts stand in front of equal texts are the same
(`Written.isKnown`).  Only a number does not say where it ends: what stands behind it must not start
with a digit.
-/

namespace JamLang.Json

open Text (IsPlain StartsNoDigit startsNoDigit_cons startsNoDigit_nil)

variable {depth : Nat} {document : Json} {text : String}

/-! ## The grammar of texts -/

/-- A document, or the lines between the brackets of an array or an object.  There an item stands
alone, and the value of a member stands behind its key. -/
inductive Part where
  | document (document : Json)
  | entries (entries : List (Option String × Json))

/-- What stands in front of the value of an entry. -/
def label : Option String → List Char
  | none => []
  | some key => (renderString key).toList ++ [':', ' ']

/-- Lines between two brackets, of which the second one stands on a line of its own. -/
def bracketed (depth : Nat) (start stop : Char) (lines : List Char) : List Char :=
  start :: (lineBreak (depth + 1)).toList ++ lines ++ (lineBreak depth).toList ++ [stop]

/-- The text of a part at a depth. -/
inductive Written : (depth : Nat) → Part → List Char → Prop where
  | null {depth : Nat} : Written depth (.document .null) "null".toList
  | bool {depth : Nat} (value : Bool) :
      Written depth (.document (.bool value)) (if value then "true" else "false").toList
  | int {depth : Nat} (value : Int) :
      Written depth (.document (.int value)) (Text.numeral value).toList
  | string {depth : Nat} (text : String) :
      Written depth (.document (.string text)) (renderString text).toList
  | emptyArray {depth : Nat} : Written depth (.document (.array [])) ['[', ']']
  | array {depth : Nat} {items : List Json} {body : List Char}
      (lines : Written (depth + 1) (.entries (items.map (none, ·))) body) :
      Written depth (.document (.array items)) (bracketed depth '[' ']' body)
  | emptyObject {depth : Nat} : Written depth (.document (.object [])) ['\x7b', '\x7d']
  | object {depth : Nat} {members : List (String × Json)} {body : List Char}
      (lines : Written (depth + 1) (.entries (members.map fun member => (some member.1, member.2)))
        body) :
      Written depth (.document (.object members)) (bracketed depth '\x7b' '\x7d' body)
  | last {depth : Nat} (key : Option String) {value : Json} {text : List Char}
      (isValue : Written depth (.document value) text) :
      Written depth (.entries [(key, value)]) (label key ++ text)
  | more {depth : Nat} (key : Option String) {value : Json}
      {entries : List (Option String × Json)} {text body : List Char}
      (isValue : Written depth (.document value) text)
      (lines : Written depth (.entries entries) body) :
      Written depth (.entries ((key, value) :: entries))
        (label key ++ text ++ ',' :: (lineBreak depth).toList ++ body)

theorem writeInteger_eq_ok {value : Int} (isOk : Text.writeInteger value = .ok text) :
    text = Text.numeral value := by
  unfold Text.writeInteger at isOk
  split at isOk
  · exact (Except.ok.inj isOk).symm
  · cases isOk

mutual
theorem written_of_renderAt : ∀ (depth : Nat) (document : Json) (text : String),
    renderAt depth document = .ok text → Written depth (.document document) text.toList
  | depth, .null, text, isText => by
    obtain rfl := Except.ok.inj isText
    exact .null
  | depth, .bool value, text, isText => by
    obtain rfl := Except.ok.inj isText
    exact .bool value
  | depth, .int value, text, isText => by
    obtain rfl := writeInteger_eq_ok isText
    exact .int value
  | depth, .string value, text, isText => by
    obtain rfl := Except.ok.inj isText
    exact .string value
  | depth, .array [], text, isText => by
    obtain rfl := Except.ok.inj isText
    exact .emptyArray
  | depth, .array (item :: items), text, isText => by
    rw [renderAt] at isText
    obtain ⟨body, isBody, isText⟩ := bind_eq_ok.1 isText
    obtain rfl := Except.ok.inj isText
    have written := Written.array (written_of_renderItems _ _ _ (List.cons_ne_nil _ _) isBody)
    simpa [bracketed] using written
  | depth, .object [], text, isText => by
    obtain rfl := Except.ok.inj isText
    exact .emptyObject
  | depth, .object (field :: members), text, isText => by
    rw [renderAt] at isText
    obtain ⟨body, isBody, isText⟩ := bind_eq_ok.1 isText
    obtain rfl := Except.ok.inj isText
    have written := Written.object (written_of_renderMembers _ _ _ (List.cons_ne_nil _ _) isBody)
    simpa [bracketed] using written

theorem written_of_renderItems : ∀ (depth : Nat) (items : List Json) (text : String), items ≠ [] →
    renderItems depth items = .ok text →
    Written depth (.entries (items.map (none, ·))) text.toList
  | depth, [item], text, _, isText => by
    rw [renderItems] at isText
    exact .last none (written_of_renderAt _ _ _ isText)
  | depth, item :: second :: items, text, _, isText => by
    rw [renderItems.eq_3 _ _ _ (List.cons_ne_nil _ _)] at isText
    obtain ⟨first, isFirst, isText⟩ := bind_eq_ok.1 isText
    obtain ⟨rest, isRest, isText⟩ := bind_eq_ok.1 isText
    obtain rfl := Except.ok.inj isText
    have written := Written.more none (written_of_renderAt _ _ _ isFirst)
      (written_of_renderItems _ _ _ (List.cons_ne_nil _ _) isRest)
    simpa [label] using written

theorem written_of_renderMembers : ∀ (depth : Nat) (members : List (String × Json)) (text : String),
    members ≠ [] → renderMembers depth members = .ok text →
    Written depth (.entries (members.map fun member => (some member.1, member.2))) text.toList
  | depth, [(key, value)], text, _, isText => by
    rw [renderMembers] at isText
    obtain ⟨first, isFirst, isText⟩ := bind_eq_ok.1 isText
    obtain rfl := Except.ok.inj isText
    have written := Written.last (some key) (written_of_renderAt _ _ _ isFirst)
    simpa [label] using written
  | depth, (key, value) :: second :: members, text, _, isText => by
    rw [renderMembers.eq_3 _ _ _ _ (List.cons_ne_nil _ _)] at isText
    obtain ⟨first, isFirst, isText⟩ := bind_eq_ok.1 isText
    obtain ⟨rest, isRest, isText⟩ := bind_eq_ok.1 isText
    obtain rfl := Except.ok.inj isText
    have written := Written.more (some key) (written_of_renderAt _ _ _ isFirst)
      (written_of_renderMembers _ _ _ (List.cons_ne_nil _ _) isRest)
    simpa [label] using written
end

/-! ## First characters -/

/-- The character may come first in the text of the document. -/
def IsFirst (c : Char) : Json → Prop
  | .null => c = 'n'
  | .bool _ => c = 't' ∨ c = 'f'
  | .int _ => c = '-' ∨ c.isDigit = true
  | .string _ => c = '"'
  | .array _ => c = '['
  | .object _ => c = '\x7b'

theorem Written.exists_cons {text : List Char} (written : Written depth (.document document) text) :
    ∃ c tail, text = c :: tail ∧ document.IsFirst c := by
  cases written with
  | null => exact ⟨_, _, rfl, rfl⟩
  | bool value =>
    cases value with
    | true => exact ⟨_, _, rfl, .inl rfl⟩
    | false => exact ⟨_, _, rfl, .inr rfl⟩
  | int value => exact Text.exists_numeral_cons value
  | string text => exact ⟨_, _, toList_renderString text, rfl⟩
  | emptyArray | array | emptyObject | object => exact ⟨_, _, rfl, rfl⟩

/-- Two documents of one sort. -/
inductive Alike : Json → Json → Prop where
  | null : Alike .null .null
  | bool (value value' : Bool) : Alike (.bool value) (.bool value')
  | int (value value' : Int) : Alike (.int value) (.int value')
  | string (text text' : String) : Alike (.string text) (.string text')
  | array (items items' : List Json) : Alike (.array items) (.array items')
  | object (members members' : List (String × Json)) : Alike (.object members) (.object members')

/-- The sort of a document is seen from the first character. -/
theorem alike_of_isFirst {c : Char} {a b : Json} (isFirst : a.IsFirst c) (isFirst' : b.IsFirst c) :
    Alike a b := by
  have notDigit : ∀ c ∈ ['n', 't', 'f', '"', '[', '\x7b'], c.isDigit = false := by simp
  cases a <;> cases b <;> first
    | constructor
    | grind [IsFirst]

/-! ## Texts in front of equal texts -/

theorem toList_lineBreak (depth : Nat) :
    (lineBreak depth).toList = '\n' :: List.replicate (2 * depth) ' ' := by
  rw [lineBreak, String.toList_ofList]

theorem Written.alike {a b : Json} {text text' rest rest' : List Char}
    (written : Written depth (.document a) text) (written' : Written depth (.document b) text')
    (same : text ++ rest = text' ++ rest') : Alike a b := by
  obtain ⟨c, tail, rfl, isFirst⟩ := written.exists_cons
  obtain ⟨d, tail', rfl, isFirst'⟩ := written'.exists_cons
  obtain ⟨rfl, -⟩ := List.cons.inj same
  exact alike_of_isFirst isFirst isFirst'

/-- No value starts with a key, as there is no colon behind a value. -/
theorem Written.ne_label {value : Json} {text rest tail : List Char} {key : String}
    (written : Written depth (.document value) text) (noColon : rest.head? ≠ some ':') :
    text ++ rest ≠ label (some key) ++ tail := by
  intro same
  rw [label, List.append_assoc] at same
  cases written.alike (.string key) same
  cases written with
  | string =>
    obtain ⟨-, rfl⟩ := renderString_append_inj same
    exact noColon rfl

theorem label_append_inj {value value' : Json} {key key' : Option String}
    {text text' rest rest' : List Char} (isValue : Written depth (.document value) text)
    (isValue' : Written depth (.document value') text') (noColon : rest.head? ≠ some ':')
    (noColon' : rest'.head? ≠ some ':')
    (same : label key ++ (text ++ rest) = label key' ++ (text' ++ rest')) :
    key = key' ∧ text ++ rest = text' ++ rest' := by
  cases key with
  | none =>
    cases key' with
    | none => exact ⟨rfl, same⟩
    | some key' => exact (isValue.ne_label noColon same).elim
  | some key =>
    cases key' with
    | none => exact (isValue'.ne_label noColon' same.symm).elim
    | some key' =>
      rw [label, label, List.append_assoc, List.append_assoc] at same
      obtain ⟨rfl, sameRest⟩ := renderString_append_inj same
      exact ⟨rfl, List.append_cancel_left sameRest⟩

theorem item_injective : Function.Injective fun item : Json => ((none : Option String), item) :=
  fun _ _ same => (Prod.mk.inj same).2

theorem member_injective :
    Function.Injective fun member : String × Json => (some member.1, member.2) :=
  fun _ _ same => Prod.ext (Option.some.inj (Prod.mk.inj same).1) (Prod.mk.inj same).2

/-- A part is known by a text that it has: no other one has a text that stands in front of an equal
text, unless a digit stands behind a document. -/
def Part.IsKnownBy (depth : Nat) (text : List Char) : Part → Prop
  | .document own => ∀ other text' rest rest', Written depth (.document other) text' →
      StartsNoDigit rest → StartsNoDigit rest' → text ++ rest = text' ++ rest' →
      own = other ∧ rest = rest'
  | .entries own => ∀ others text' rest rest', Written depth (.entries others) text' →
      text ++ '\n' :: rest = text' ++ '\n' :: rest' → own = others ∧ rest = rest'

/-- An entry whose value is known by its text is known too, and so is the mark behind it. -/
theorem Part.IsKnownBy.of_entry {key key' : Option String} {value value' : Json} {mark mark' : Char}
    {text text' tail tail' : List Char} (known : (Part.document value).IsKnownBy depth text)
    (isValue : Written depth (.document value) text)
    (isValue' : Written depth (.document value') text') (isMark : mark ∈ [',', '\n'])
    (isMark' : mark' ∈ [',', '\n'])
    (same : label key ++ (text ++ mark :: tail) = label key' ++ (text' ++ mark' :: tail')) :
    (key, value) = (key', value') ∧ mark = mark' ∧ tail = tail' := by
  have noColon : ∀ mark ∈ [',', '\n'], ∀ tail : List Char, (mark :: tail).head? ≠ some ':' := by
    simp
  have notDigit : ∀ mark ∈ [',', '\n'], mark.isDigit = false := by simp
  obtain ⟨rfl, sameRest⟩ :=
    label_append_inj isValue isValue' (noColon mark isMark tail) (noColon mark' isMark' tail') same
  obtain ⟨rfl, sameTail⟩ := known _ _ _ _ isValue' (startsNoDigit_cons (notDigit mark isMark) tail)
    (startsNoDigit_cons (notDigit mark' isMark') tail') sameRest
  exact ⟨rfl, List.cons.inj sameTail⟩

/-- Between the brackets of an array or an object that is not empty the line breaks. -/
theorem bracketed_ne_empty (start stop : Char) (lines rest rest' : List Char)
    (notFeed : stop ≠ '\n') :
    bracketed depth start stop lines ++ rest ≠ [start, stop] ++ rest' := by
  simp [bracketed, toList_lineBreak, Ne.symm notFeed]

/-- The lines between two brackets end at the line of the second one. -/
theorem Part.IsKnownBy.of_bracketed {entries others : List (Option String × Json)}
    {lines lines' rest rest' : List Char} {start stop : Char}
    (known : (Part.entries entries).IsKnownBy (depth + 1) lines)
    (areLines' : Written (depth + 1) (.entries others) lines')
    (same : bracketed depth start stop lines ++ rest = bracketed depth start stop lines' ++ rest') :
    entries = others ∧ rest = rest' := by
  have sameLines : lines ++ '\n' :: (List.replicate (2 * depth) ' ' ++ stop :: rest) =
      lines' ++ '\n' :: (List.replicate (2 * depth) ' ' ++ stop :: rest') := by
    simpa [bracketed, toList_lineBreak] using same
  obtain ⟨sameEntries, sameTail⟩ := known _ _ _ _ areLines' sameLines
  exact ⟨sameEntries, by simpa using sameTail⟩

theorem Written.isKnown {part : Part} {text : List Char} (written : Written depth part text) :
    part.IsKnownBy depth text := by
  -- The first character says by which rules the other document can have been written, and then the
  -- parts of the two are compared.
  induction written with
  | null =>
    intro other text' rest rest' written' _ _ same
    cases Written.null.alike written' same
    cases written'
    exact ⟨rfl, List.append_cancel_left same⟩
  | bool value =>
    intro other text' rest rest' written' _ _ same
    cases (Written.bool value).alike written' same with
    | bool _ value' =>
      cases written'
      cases value with
      | true =>
        cases value' with
        | true => exact ⟨rfl, List.append_cancel_left same⟩
        | false => simp at same
      | false =>
        cases value' with
        | true => simp at same
        | false => exact ⟨rfl, List.append_cancel_left same⟩
  | int value =>
    intro other text' rest rest' written' stops stops' same
    cases (Written.int value).alike written' same
    cases written' with
    | int value' =>
      obtain ⟨rfl, sameRest⟩ := Text.numeral_append_inj stops stops' same
      exact ⟨rfl, sameRest⟩
  | string value =>
    intro other text' rest rest' written' _ _ same
    cases (Written.string value).alike written' same
    cases written' with
    | string value' =>
      obtain ⟨rfl, sameRest⟩ := renderString_append_inj same
      exact ⟨rfl, sameRest⟩
  | emptyArray =>
    intro other text' rest rest' written' _ _ same
    cases Written.emptyArray.alike written' same
    cases written' with
    | emptyArray => exact ⟨rfl, List.append_cancel_left same⟩
    | array => exact (bracketed_ne_empty _ _ _ _ _ (by decide) same.symm).elim
  | @array depth items body lines ih =>
    intro other text' rest rest' written' _ _ same
    cases (Written.array lines).alike written' same
    cases written' with
    | emptyArray => exact (bracketed_ne_empty _ _ _ _ _ (by decide) same).elim
    | array lines' =>
      obtain ⟨sameEntries, sameRest⟩ := ih.of_bracketed lines' same
      obtain rfl := item_injective.list_map sameEntries
      exact ⟨rfl, sameRest⟩
  | emptyObject =>
    intro other text' rest rest' written' _ _ same
    cases Written.emptyObject.alike written' same
    cases written' with
    | emptyObject => exact ⟨rfl, List.append_cancel_left same⟩
    | object => exact (bracketed_ne_empty _ _ _ _ _ (by decide) same.symm).elim
  | @object depth members body lines ih =>
    intro other text' rest rest' written' _ _ same
    cases (Written.object lines).alike written' same
    cases written' with
    | emptyObject => exact (bracketed_ne_empty _ _ _ _ _ (by decide) same).elim
    | object lines' =>
      obtain ⟨sameEntries, sameRest⟩ := ih.of_bracketed lines' same
      obtain rfl := member_injective.list_map sameEntries
      exact ⟨rfl, sameRest⟩
  | last _ isValue ih =>
    intro others text' rest rest' written' same
    cases written' with
    | last _ isValue' =>
      simp only [List.append_assoc] at same
      obtain ⟨sameEntry, -, sameRest⟩ := ih.of_entry isValue isValue' (by simp) (by simp) same
      exact ⟨congrArg ([·]) sameEntry, sameRest⟩
    | more _ isValue' =>
      simp only [List.append_assoc, List.cons_append] at same
      obtain ⟨-, sameMark, -⟩ := ih.of_entry isValue isValue' (by simp) (by simp) same
      exact absurd sameMark (by decide)
  | more _ isValue lines ih ihLines =>
    intro others text' rest rest' written' same
    cases written' with
    | last _ isValue' =>
      simp only [List.append_assoc, List.cons_append] at same
      obtain ⟨-, sameMark, -⟩ := ih.of_entry isValue isValue' (by simp) (by simp) same
      exact absurd sameMark (by decide)
    | more _ isValue' lines' =>
      simp only [List.append_assoc, List.cons_append] at same
      obtain ⟨sameEntry, -, sameTail⟩ := ih.of_entry isValue isValue' (by simp) (by simp) same
      obtain ⟨sameEntries, sameRest⟩ := ihLines _ _ _ _ lines' (List.append_cancel_left sameTail)
      exact ⟨List.cons_eq_cons.2 ⟨sameEntry, sameEntries⟩, sameRest⟩

/-! ## Plain texts -/

theorem isPlain_of_mem_lineBreak : ∀ c ∈ (lineBreak depth).toList, IsPlain c := by
  have isPlain_space : IsPlain ' ' := by decide
  rw [toList_lineBreak, List.forall_mem_cons]
  exact ⟨.inl rfl, fun c isSpace => List.eq_of_mem_replicate isSpace ▸ isPlain_space⟩

theorem isPlain_of_mem_numeral {value : Int} : ∀ c ∈ (Text.numeral value).toList, IsPlain c := by
  have isPlain_sign : IsPlain '-' := by decide
  intro c isPart
  cases Text.sign_or_isDigit_of_mem_numeral c isPart with
  | inl isSign => exact isSign ▸ isPlain_sign
  | inr isDigit =>
    obtain ⟨least, greatest⟩ := Text.toNat_of_isDigit isDigit
    exact .inr ⟨by omega, by omega⟩

theorem isPlain_of_mem_bracketed {start stop : Char} {lines : List Char} (isStart : IsPlain start)
    (isStop : IsPlain stop) (areLines : ∀ c ∈ lines, IsPlain c) :
    ∀ c ∈ bracketed depth start stop lines, IsPlain c := by
  simp only [bracketed, List.forall_mem_append, List.cons_append, List.forall_mem_cons]
  exact ⟨isStart, ⟨⟨isPlain_of_mem_lineBreak, areLines⟩, isPlain_of_mem_lineBreak⟩, isStop, nofun⟩

theorem isPlain_of_mem_label {key : Option String} : ∀ c ∈ label key, IsPlain c := by
  cases key with
  | none => simp [label]
  | some key =>
    rw [label, List.forall_mem_append]
    exact ⟨isPlain_of_mem_renderString, by simp [IsPlain]⟩

theorem Written.isPlain {part : Part} {text : List Char} (written : Written depth part text) :
    ∀ c ∈ text, IsPlain c := by
  induction written with
  | null | emptyArray | emptyObject => simp [IsPlain]
  | bool value => cases value <;> simp [IsPlain]
  | int value => exact isPlain_of_mem_numeral
  | string text => exact isPlain_of_mem_renderString
  | array _ ih | object _ ih =>
    exact isPlain_of_mem_bracketed (by decide) (by decide) ih
  | last _ _ ih => exact List.forall_mem_append.2 ⟨isPlain_of_mem_label, ih⟩
  | more _ _ _ ih ihLines =>
    simp only [List.forall_mem_append, List.forall_mem_cons]
    exact ⟨⟨⟨isPlain_of_mem_label, ih⟩, by decide, isPlain_of_mem_lineBreak⟩, ihLines⟩

/-! ## Whole documents -/

/-- A document is known by its text. -/
theorem render_inj {a b : Json} (isText : render a = .ok text) (isText' : render b = .ok text) :
    a = b := by
  have written := written_of_renderAt 0 a text isText
  have written' := written_of_renderAt 0 b text isText'
  exact (written.isKnown b _ [] [] written' startsNoDigit_nil startsNoDigit_nil rfl).1

/-- Texts of documents are plain. -/
theorem isPlain_of_mem_render (isText : render document = .ok text) :
    ∀ c ∈ text.toList, IsPlain c :=
  (written_of_renderAt 0 document text isText).isPlain

end JamLang.Json
