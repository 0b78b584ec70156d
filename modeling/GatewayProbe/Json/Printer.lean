/-
Writing JSON texts.

* `Json.quoted` — a text in quotes, with the escapes JSON requires and no others;
* `Json.compact` — a value without blanks;
* `Json.pretty` — one item or field a line, indented by two blanks a level.

A double is written with the fewest digits that read back; NaN and the infinities are written as
`null`, for JSON has no numeral for them.
-/
import GatewayProbe.Decimal.Shortest
import GatewayProbe.Json.Basic

namespace GatewayProbe

/-- A number in JSON. -/
def Number.chars : Number → List Char
  | .whole n => if n < 0 then '-' :: Decimal.digits n.natAbs else Decimal.digits n.natAbs
  | .double x => if x.isFinite then (Decimal.shortest x).toList else "null".toList

namespace Json

/-- The digit of a number below sixteen. -/
def hexDigit (n : Nat) : Char :=
  if n < 10 then Char.ofNat ('0'.toNat + n) else Char.ofNat ('a'.toNat + (n - 10))

/-- A character inside quotes: the quote, the backslash and the control characters are escaped. -/
def quotedChar (c : Char) : List Char :=
  match c with
  | '"' => ['\\', '"']
  | '\\' => ['\\', '\\']
  | '\x08' => ['\\', 'b']
  | '\x0c' => ['\\', 'f']
  | '\n' => ['\\', 'n']
  | '\r' => ['\\', 'r']
  | '\t' => ['\\', 't']
  | c =>
    if c.toNat < 0x20 then ['\\', 'u', '0', '0', hexDigit (c.toNat / 16), hexDigit (c.toNat % 16)]
    else [c]

/-- A text in quotes. -/
def quoted (s : String) : List Char := '"' :: (s.toList.flatMap quotedChar ++ ['"'])

mutual

/-- A value without blanks. -/
def compactChars : Json → List Char
  | .null => "null".toList
  | .bool value => if value then "true".toList else "false".toList
  | .number value => value.chars
  | .text value => quoted value
  | .array items => '[' :: (compactItems items ++ [']'])
  | .object fields => '{' :: (compactFields fields ++ ['}'])

/-- Items with commas between them. -/
def compactItems : List Json → List Char
  | [] => []
  | [item] => compactChars item
  | item :: rest => compactChars item ++ ',' :: compactItems rest

/-- Fields with commas between them. -/
def compactFields : List (String × Json) → List Char
  | [] => []
  | [(key, value)] => quoted key ++ ':' :: compactChars value
  | (key, value) :: rest => quoted key ++ ':' :: (compactChars value ++ ',' :: compactFields rest)

end

/-- A value without blanks. -/
def compact (value : Json) : String := String.ofList value.compactChars

/-- A line break and the indentation of a level. -/
def newline (level : Nat) : List Char := '\n' :: List.replicate (2 * level) ' '

mutual

/-- A value on its own lines, at a level of indentation. -/
def prettyChars (level : Nat) : Json → List Char
  | .array [] => ['[', ']']
  | .array items => '[' :: (prettyItems (level + 1) items ++ newline level ++ [']'])
  | .object [] => ['{', '}']
  | .object fields => '{' :: (prettyFields (level + 1) fields ++ newline level ++ ['}'])
  | .null => "null".toList
  | .bool value => if value then "true".toList else "false".toList
  | .number value => value.chars
  | .text value => quoted value

/-- Items, one a line. -/
def prettyItems (level : Nat) : List Json → List Char
  | [] => []
  | [item] => newline level ++ prettyChars level item
  | item :: rest => newline level ++ prettyChars level item ++ ',' :: prettyItems level rest

/-- Fields, one a line. -/
def prettyFields (level : Nat) : List (String × Json) → List Char
  | [] => []
  | [(key, value)] => newline level ++ quoted key ++ ':' :: ' ' :: prettyChars level value
  | (key, value) :: rest =>
    newline level ++ quoted key ++ ':' :: ' ' ::
      (prettyChars level value ++ ',' :: prettyFields level rest)

end

/-- A value on several lines. -/
def pretty (value : Json) : String := String.ofList (value.prettyChars 0)

end Json
end GatewayProbe
