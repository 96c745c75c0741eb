import JamLang.Text.Hex

/-!
# Strict UTF-8

The bytes of a file are read one at a time.  Between characters any lead byte may stand; inside a
character the machine knows how many continuation bytes are owed and which bytes the next one may
be, so that overlong forms, surrogates and code points past the last one are refused at the byte
that rules them out.  A refusal names the longest part of the character that was still valid.
-/

namespace JamLang.Text.Utf8

/-- Why bytes are no text. -/
inductive Reason where
  /-- No character starts with this byte. -/
  | startByte
  /-- The character cannot go on with the byte that follows. -/
  | continuationByte
  /-- The bytes end inside a character. -/
  | endOfData
  deriving DecidableEq, Repr

/-- The wording of a reason. -/
def Reason.message : Reason → String
  | .startByte => "invalid start byte"
  | .continuationByte => "invalid continuation byte"
  | .endOfData => "unexpected end of data"

/-- The bytes from `start` up to but not including `stop`, of which `first` is the first, are no
character. -/
structure Fault where
  first : UInt8
  start : Nat
  stop : Nat
  reason : Reason
  deriving DecidableEq, Repr

/-- The text of a fault; a single byte is shown, several are counted. -/
def Fault.message (fault : Fault) : String :=
  let place :=
    if fault.stop = fault.start + 1 then
      "byte 0x" ++ String.ofList (hexDigits 2 fault.first.toNat) ++ " in position " ++
        fault.start.repr
    else
      "bytes in position " ++ fault.start.repr ++ "-" ++ (fault.stop - 1).repr
  "'utf-8' codec can't decode " ++ place ++ ": " ++ fault.reason.message

/-- A character of which some bytes have been read. -/
structure Begun where
  /-- The lead byte. -/
  first : UInt8
  /-- The position of the lead byte. -/
  start : Nat
  /-- The number of continuation bytes owed besides the next one. -/
  owed : Nat
  /-- The least and the greatest byte that may come next. -/
  low : Nat
  high : Nat
  /-- The bits of the code point so far. -/
  bits : Nat

/-- What a lead byte of a longer character begins. -/
def begin? (position : Nat) (byte : UInt8) : Option Begun :=
  let b := byte.toNat
  if 0xC2 ≤ b ∧ b ≤ 0xDF then some ⟨byte, position, 0, 0x80, 0xBF, b - 0xC0⟩
  else if 0xE0 ≤ b ∧ b ≤ 0xEF then
    let low := if b = 0xE0 then 0xA0 else 0x80
    let high := if b = 0xED then 0x9F else 0xBF
    some ⟨byte, position, 1, low, high, b - 0xE0⟩
  else if 0xF0 ≤ b ∧ b ≤ 0xF4 then
    let low := if b = 0xF0 then 0x90 else 0x80
    let high := if b = 0xF4 then 0x8F else 0xBF
    some ⟨byte, position, 2, low, high, b - 0xF0⟩
  else none

/-- Decodes the bytes from a position on, possibly inside a character. -/
def decodeFrom (position : Nat) : Option Begun → List UInt8 → Except Fault (List Char)
  | none, [] => .ok []
  | some begun, [] => .error ⟨begun.first, begun.start, position, .endOfData⟩
  | none, byte :: rest =>
    if byte.toNat < 0x80 then
      (decodeFrom (position + 1) none rest).map (Char.ofNat byte.toNat :: ·)
    else
      match begin? position byte with
      | some begun => decodeFrom (position + 1) (some begun) rest
      | none => .error ⟨byte, position, position + 1, .startByte⟩
  | some begun, byte :: rest =>
    if begun.low ≤ byte.toNat ∧ byte.toNat ≤ begun.high then
      let bits := begun.bits * 64 + (byte.toNat - 0x80)
      match begun.owed with
      | 0 => (decodeFrom (position + 1) none rest).map (Char.ofNat bits :: ·)
      | owed + 1 =>
        decodeFrom (position + 1) (some ⟨begun.first, begun.start, owed, 0x80, 0xBF, bits⟩) rest
    else
      .error ⟨begun.first, begun.start, position, .continuationByte⟩

/-- The text that a file's bytes spell. -/
def decode (bytes : List UInt8) : Except Fault (List Char) :=
  decodeFrom 0 none bytes

/-- The bytes that spell a text. -/
def encode (text : String) : List UInt8 :=
  text.toUTF8.toList

end JamLang.Text.Utf8
