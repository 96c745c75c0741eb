import JamLang.Text.Numeral

/-!
# JSON documents

A document is written on several lines: every member of an array or an object stands on a line of
its own, two columns further in than the brackets.  The text is printable ASCII and line feeds
only; all other characters are escaped, those beyond the basic plane as a pair of surrogates.
-/

namespace JamLang

/-- A JSON document whose numbers are integers.  An object keeps the order of its members. -/
inductive Json where
  | null
  | bool (value : Bool)
  | int (value : Int)
  | string (text : String)
  | array (items : List Json)
  | object (members : List (String × Json))

namespace Json

/-- The escape of one UTF-16 unit. -/
def escapeUnit (unit : Nat) : List Char :=
  '\\' :: 'u' :: Text.hexDigits 4 unit

/-- A character as it stands in a string. -/
def escape (c : Char) : List Char :=
  if c = '"' ∨ c = '\\' then ['\\', c]
  else if c = '\n' then ['\\', 'n']
  else if c = '\r' then ['\\', 'r']
  else if c = '\t' then ['\\', 't']
  else if c = '\x08' then ['\\', 'b']
  else if c = '\x0c' then ['\\', 'f']
  else if 0x20 ≤ c.toNat ∧ c.toNat ≤ 0x7E then [c]
  else if c.toNat < 0x10000 then escapeUnit c.toNat
  else
    escapeUnit (0xD800 + (c.toNat - 0x10000) / 0x400) ++
      escapeUnit (0xDC00 + (c.toNat - 0x10000) % 0x400)

/-- A string in its quotes. -/
def renderString (text : String) : String :=
  String.ofList ('"' :: text.toList.flatMap escape ++ ['"'])

/-- A line break, and the indentation of the line that follows. -/
def lineBreak (depth : Nat) : String :=
  String.ofList ('\n' :: List.replicate (2 * depth) ' ')

mutual
/-- The text of a document that stands at a depth. -/
def renderAt (depth : Nat) : Json → Except Text.NumeralFault String
  | .null => .ok "null"
  | .bool value => .ok (if value then "true" else "false")
  | .int value => Text.writeInteger value
  | .string text => .ok (renderString text)
  | .array [] => .ok "[]"
  | .array (item :: items) => do
    let body ← renderItems (depth + 1) (item :: items)
    pure ("[" ++ lineBreak (depth + 1) ++ body ++ lineBreak depth ++ "]")
  | .object [] => .ok "\x7b\x7d"
  | .object (field :: members) => do
    let body ← renderMembers (depth + 1) (field :: members)
    pure ("\x7b" ++ lineBreak (depth + 1) ++ body ++ lineBreak depth ++ "\x7d")

/-- The items of an array, one a line. -/
def renderItems (depth : Nat) : List Json → Except Text.NumeralFault String
  | [] => .ok ""
  | [item] => renderAt depth item
  | item :: items => do
    let first ← renderAt depth item
    let rest ← renderItems depth items
    pure (first ++ "," ++ lineBreak depth ++ rest)

/-- The members of an object, one a line. -/
def renderMembers (depth : Nat) : List (String × Json) → Except Text.NumeralFault String
  | [] => .ok ""
  | [(key, value)] => do
    let first ← renderAt depth value
    pure (renderString key ++ ": " ++ first)
  | (key, value) :: members => do
    let first ← renderAt depth value
    let rest ← renderMembers depth members
    pure (renderString key ++ ": " ++ first ++ "," ++ lineBreak depth ++ rest)
end

/-- The text of a document.  It exists unless a number has too many digits. -/
def render (document : Json) : Except Text.NumeralFault String :=
  renderAt 0 document

end Json

end JamLang
