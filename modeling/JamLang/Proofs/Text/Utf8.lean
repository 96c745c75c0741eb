import JamLang.Text.Utf8

/-!
# Reading back what was written

The bytes that spell a text are read as that text (`decode_encode`).  The machine that reads them
takes one byte at a time, so this is shown byte by byte: a lead byte leaves behind how many bytes
are owed and what the next one may be, and every continuation byte pays one of them off and adds its
six bits to the code point.
-/

namespace JamLang.Text.Utf8

variable {byte : UInt8} {rest : List UInt8} {text : List Char}
  {owed low high bits bits' code : Nat}

/-! ## One byte -/

/-- Between characters the bytes are read as the text, wherever they stand. -/
def ReadsAs (bytes : List UInt8) (text : List Char) : Prop :=
  ∀ position, decodeFrom position none bytes = .ok text

/-- Inside of a character, of which some bytes are owed, the bytes are read as the text. -/
def ReadsOn (owed low high bits : Nat) (bytes : List UInt8) (text : List Char) : Prop :=
  ∀ position first start,
    decodeFrom position (some ⟨first, start, owed, low, high, bits⟩) bytes = .ok text

theorem readsAs_nil : ReadsAs [] [] := by
  intro position
  rw [decodeFrom]

theorem ReadsAs.ascii (isAscii : byte.toNat < 0x80) (reads : ReadsAs rest text) :
    ReadsAs (byte :: rest) (Char.ofNat byte.toNat :: text) := by
  intro position
  rw [decodeFrom, if_pos isAscii, reads]
  rfl

theorem ReadsAs.lead (notAscii : 0x80 ≤ byte.toNat)
    (begins : ∀ position, begin? position byte = some ⟨byte, position, owed, low, high, bits⟩)
    (reads : ReadsOn owed low high bits rest text) : ReadsAs (byte :: rest) text := by
  intro position
  rw [decodeFrom, if_neg (Nat.not_lt.2 notAscii), begins]
  exact reads _ _ _

theorem ReadsOn.more (isNext : low ≤ byte.toNat ∧ byte.toNat ≤ high)
    (isBits : bits * 64 + (byte.toNat - 0x80) = bits')
    (reads : ReadsOn owed 0x80 0xBF bits' rest text) :
    ReadsOn (owed + 1) low high bits (byte :: rest) text := by
  intro position first start
  subst isBits
  rw [decodeFrom, if_pos isNext]
  exact reads _ _ _

theorem ReadsAs.last (isNext : low ≤ byte.toNat ∧ byte.toNat ≤ high)
    (isCode : bits * 64 + (byte.toNat - 0x80) = code) (reads : ReadsAs rest text) :
    ReadsOn 0 low high bits (byte :: rest) (Char.ofNat code :: text) := by
  intro position first start
  subst isCode
  rw [decodeFrom, if_pos isNext]
  simp only [reads (position + 1)]
  rfl

/-! ## Lead bytes -/

theorem begin?_two (isLead : 0xC2 ≤ byte.toNat ∧ byte.toNat ≤ 0xDF) (position : Nat) :
    begin? position byte = some ⟨byte, position, 0, 0x80, 0xBF, byte.toNat - 0xC0⟩ :=
  if_pos isLead

theorem begin?_three (isLead : 0xE0 ≤ byte.toNat ∧ byte.toNat ≤ 0xEF) (position : Nat) :
    begin? position byte = some ⟨byte, position, 1, if byte.toNat = 0xE0 then 0xA0 else 0x80,
      if byte.toNat = 0xED then 0x9F else 0xBF, byte.toNat - 0xE0⟩ := by
  have notTwo : ¬ (0xC2 ≤ byte.toNat ∧ byte.toNat ≤ 0xDF) := by omega
  exact (if_neg notTwo).trans (if_pos isLead)

theorem begin?_four (isLead : 0xF0 ≤ byte.toNat ∧ byte.toNat ≤ 0xF4) (position : Nat) :
    begin? position byte = some ⟨byte, position, 2, if byte.toNat = 0xF0 then 0x90 else 0x80,
      if byte.toNat = 0xF4 then 0x8F else 0xBF, byte.toNat - 0xF0⟩ := by
  have notTwo : ¬ (0xC2 ≤ byte.toNat ∧ byte.toNat ≤ 0xDF) := by omega
  have notThree : ¬ (0xE0 ≤ byte.toNat ∧ byte.toNat ≤ 0xEF) := by omega
  exact (if_neg notTwo).trans ((if_neg notThree).trans (if_pos isLead))

/-! ## One character -/

theorem toNat_ofNat {value : Nat} (isByte : value < 256) : (UInt8.ofNat value).toNat = value :=
  UInt8.toNat_ofNat_of_lt' isByte

theorem toNat_continuation (value : Nat) :
    (UInt8.ofNat (value % 0x40 + 0x80)).toNat = value % 0x40 + 0x80 :=
  toNat_ofNat (by omega)

theorem ReadsAs.two (isTwo : 0x7F < code ∧ code ≤ 0x7FF) (reads : ReadsAs rest text) :
    ReadsAs
      (.ofNat (code / 64 % 0x20 + 0xC0) :: .ofNat (code % 0x40 + 0x80) :: rest)
      (Char.ofNat code :: text) := by
  have lead : (UInt8.ofNat (code / 64 % 0x20 + 0xC0)).toNat = code / 64 + 0xC0 := by
    rw [toNat_ofNat] <;> omega
  have last := toNat_continuation code
  refine .lead (by omega) (begin?_two (by omega)) ?_
  exact reads.last (by omega) (by omega)

theorem ReadsAs.three (isThree : 0x7FF < code ∧ code ≤ 0xFFFF)
    (isScalar : code < 0xD800 ∨ 0xDFFF < code) (reads : ReadsAs rest text) :
    ReadsAs
      (.ofNat (code / 4096 % 0x10 + 0xE0) :: .ofNat (code / 64 % 0x40 + 0x80) ::
        .ofNat (code % 0x40 + 0x80) :: rest)
      (Char.ofNat code :: text) := by
  have lead : (UInt8.ofNat (code / 4096 % 0x10 + 0xE0)).toNat = code / 4096 + 0xE0 := by
    rw [toNat_ofNat] <;> omega
  have next := toNat_continuation (code / 64)
  have last := toNat_continuation code
  refine .lead (by omega) (begin?_three (by omega)) ?_
  -- Behind `E0` only what needs three bytes may follow, and behind `ED` no surrogate.
  refine .more (by split <;> split <;> omega) rfl ?_
  exact reads.last (by omega) (by omega)

theorem ReadsAs.four (isFour : 0xFFFF < code ∧ code ≤ 0x10FFFF) (reads : ReadsAs rest text) :
    ReadsAs
      (.ofNat (code / 262144 % 0x08 + 0xF0) :: .ofNat (code / 4096 % 0x40 + 0x80) ::
        .ofNat (code / 64 % 0x40 + 0x80) :: .ofNat (code % 0x40 + 0x80) :: rest)
      (Char.ofNat code :: text) := by
  have lead : (UInt8.ofNat (code / 262144 % 0x08 + 0xF0)).toNat = code / 262144 + 0xF0 := by
    rw [toNat_ofNat] <;> omega
  have second := toNat_continuation (code / 4096)
  have third := toNat_continuation (code / 64)
  have last := toNat_continuation code
  refine .lead (by omega) (begin?_four (by omega)) ?_
  -- Behind `F0` only what needs four bytes may follow, and behind `F4` no more than there is.
  refine .more (by split <;> split <;> omega) rfl ?_
  refine .more (by omega) rfl ?_
  exact reads.last (by omega) (by omega)

theorem ReadsAs.character (c : Char) (reads : ReadsAs rest text) :
    ReadsAs (String.utf8EncodeChar c ++ rest) (c :: text) := by
  have isScalar : c.val.toNat < 0xD800 ∨ 0xDFFF < c.val.toNat ∧ c.val.toNat < 0x110000 := c.valid
  have reads' : ReadsAs (String.utf8EncodeChar c ++ rest) (Char.ofNat c.val.toNat :: text) := by
    unfold String.utf8EncodeChar
    generalize c.val.toNat = code at isScalar
    dsimp only
    split
    · next isOne =>
      have isByte : (UInt8.ofNat code).toNat = code := toNat_ofNat (by omega)
      have isAscii : (UInt8.ofNat code).toNat < 0x80 := by omega
      have reads := reads.ascii isAscii
      rwa [isByte] at reads
    · split
      · exact reads.two (by omega)
      · split
        · exact reads.three (by omega) (by omega)
        · exact reads.four (by omega)
  have isCode : Char.ofNat c.val.toNat = c := Char.ofNat_toNat c
  rwa [isCode] at reads'

/-! ## Whole texts -/

theorem toList_loop (bytes : ByteArray) (start : Nat) (before : List UInt8) :
    ByteArray.toList.loop bytes start before = before.reverse ++ bytes.data.toList.drop start := by
  fun_induction ByteArray.toList.loop bytes start before with
  | case1 start before inside ih =>
    have isHere : start < bytes.data.toList.length := inside
    rw [ih, List.drop_eq_getElem_cons isHere]
    simp [ByteArray.get!, inside]
  | case2 start before atEnd =>
    have nothing : bytes.data.toList.length ≤ start := Nat.not_lt.1 atEnd
    rw [List.drop_eq_nil_of_le nothing, List.append_nil]

theorem encode_eq_flatMap (text : String) :
    encode text = text.toList.flatMap String.utf8EncodeChar := by
  rw [encode, ByteArray.toList, toList_loop, String.toUTF8_eq_toByteArray, ← String.utf8Encode_toList,
    List.utf8Encode, List.toList_data_toByteArray]
  rfl

/-- What was written is read back. -/
theorem decode_encode (text : String) : decode (encode text) = .ok text.toList := by
  have reads (chars : List Char) : ReadsAs (chars.flatMap String.utf8EncodeChar) chars := by
    induction chars with
    | nil => exact readsAs_nil
    | cons c chars ih => exact ih.character c
  rw [decode, encode_eq_flatMap, reads]

end JamLang.Text.Utf8
