/-
Reading JSON texts.

A text is first read as a *document*, which keeps everything a reader of records may ask about: the
order of fields, repeated keys, numerals as written, and escapes that name half a character. Only
then is it turned into a value or into a record. A part that nobody asks about has to be well formed
and nothing more, whatever its depth or the size of its numerals.

* `Document.parse?` — the document of a text, which it must fill;
* `Document.keep?` — the value of a document. Containers may nest 127 deep, numerals must fit a
  double, and every escape must name a whole character;
* `Json.parse?` — the value of a text.
-/
import GatewayProbe.Json.Numeral

namespace GatewayProbe

/-- A piece of a quoted text: a character, or a 16-bit unit written as an escape. -/
inductive Piece where
  | char (c : Char)
  | unit (n : Nat)
  deriving DecidableEq, Repr

/-- A JSON text as it is written. -/
inductive Document where
  | null
  | bool (value : Bool)
  | number (numeral : Numeral)
  | text (pieces : List Piece)
  | array (items : List Document)
  | object (fields : List (List Piece × Document))

namespace Document

/-- The blanks of JSON. -/
def isSpace (c : Char) : Bool := c = ' ' || c = '\n' || c = '\t' || c = '\r'

/-- Drops blanks from the front of a text. -/
def skip (cs : List Char) : List Char := cs.dropWhile isSpace

/-- The value of a hexadecimal digit. -/
def hexDigit? (c : Char) : Option Nat :=
  if '0' ≤ c ∧ c ≤ '9' then some (c.toNat - '0'.toNat)
  else if 'a' ≤ c ∧ c ≤ 'f' then some (c.toNat - 'a'.toNat + 10)
  else if 'A' ≤ c ∧ c ≤ 'F' then some (c.toNat - 'A'.toNat + 10)
  else none

/-- The unit written by four hexadecimal digits. -/
def unit? (a b c d : Char) : Option Nat := do
  return (((← hexDigit? a) * 16 + (← hexDigit? b)) * 16 + (← hexDigit? c)) * 16 + (← hexDigit? d)

/-- The character that a letter after a backslash stands for. -/
def escape? (c : Char) : Option Char :=
  match c with
  | '"' => some '"'
  | '\\' => some '\\'
  | '/' => some '/'
  | 'b' => some '\x08'
  | 'f' => some '\x0c'
  | 'n' => some '\n'
  | 'r' => some '\r'
  | 't' => some '\t'
  | _ => none

/-- Reads a quoted text after its opening quote. Control characters must be escaped. -/
def readPieces : List Char → Option (List Piece × List Char)
  | [] => none
  | c :: cs =>
    if c = '"' then some ([], cs)
    else if c = '\\' then
      match cs with
      | 'u' :: h₁ :: h₂ :: h₃ :: h₄ :: rest => do
        let n ← unit? h₁ h₂ h₃ h₄
        let (pieces, rest) ← readPieces rest
        return (.unit n :: pieces, rest)
      | letter :: rest => do
        let e ← escape? letter
        let (pieces, rest) ← readPieces rest
        return (.char e :: pieces, rest)
      | [] => none
    else if c.toNat < 0x20 then none
    else (readPieces cs).map fun (pieces, rest) => (.char c :: pieces, rest)

/-- Splits a word from the front of a text. -/
def stripWord (word cs : List Char) : Option (List Char) :=
  if word.isPrefixOf cs then some (cs.drop word.length) else none

/-- Reads `null`, `true`, `false` or a numeral. -/
def readScalar (cs : List Char) : Option (Document × List Char) :=
  match cs with
  | 'n' :: _ => (stripWord "null".toList cs).map fun rest => (.null, rest)
  | 't' :: _ => (stripWord "true".toList cs).map fun rest => (.bool true, rest)
  | 'f' :: _ => (stripWord "false".toList cs).map fun rest => (.bool false, rest)
  | _ => (Numeral.read cs).map fun (n, rest) => (.number n, rest)

mutual

/-- Reads one value from the front of a text. -/
def read : Nat → List Char → Option (Document × List Char)
  | 0, _ => none
  | fuel + 1, cs =>
    match skip cs with
    | '"' :: rest => (readPieces rest).map fun (pieces, rest) => (.text pieces, rest)
    | '[' :: rest =>
      match skip rest with
      | ']' :: rest => some (.array [], rest)
      | rest => (readItems fuel rest).map fun (items, rest) => (.array items, rest)
    | '{' :: rest =>
      match skip rest with
      | '}' :: rest => some (.object [], rest)
      | rest => (readFields fuel rest).map fun (fields, rest) => (.object fields, rest)
    | cs => readScalar cs

/-- Reads the items of a list up to its closing bracket; there is at least one. -/
def readItems : Nat → List Char → Option (List Document × List Char)
  | 0, _ => none
  | fuel + 1, cs => do
    let (item, rest) ← read fuel cs
    match skip rest with
    | ']' :: rest => return ([item], rest)
    | ',' :: rest =>
      let (items, rest) ← readItems fuel rest
      return (item :: items, rest)
    | _ => none

/-- Reads the fields of an object up to its closing brace; there is at least one. -/
def readFields : Nat → List Char → Option (List (List Piece × Document) × List Char)
  | 0, _ => none
  | fuel + 1, cs =>
    match skip cs with
    | '"' :: rest => do
      let (key, rest) ← readPieces rest
      match skip rest with
      | ':' :: rest =>
        let (value, rest) ← read fuel rest
        match skip rest with
        | '}' :: rest => return ([(key, value)], rest)
        | ',' :: rest =>
          let (fields, rest) ← readFields fuel rest
          return ((key, value) :: fields, rest)
        | _ => none
      | _ => none
    | _ => none

end

/-- Reads a document that must fill the whole list of characters. -/
def parseChars? (cs : List Char) : Option Document :=
  match read (2 * cs.length + 2) cs with
  | some (doc, rest) => if (skip rest).isEmpty then some doc else none
  | none => none

/-- Reads a document that must fill the whole text. -/
def parse? (s : String) : Option Document := parseChars? s.toList

/-- A 16-bit unit that is the first half of a character. -/
def isHigh (n : Nat) : Bool := 0xD800 ≤ n && n < 0xDC00

/-- A 16-bit unit that is the second half of a character. -/
def isLow (n : Nat) : Bool := 0xDC00 ≤ n && n < 0xE000

/-- The characters that pieces write. Two halves must follow each other directly. -/
def charsOf? : List Piece → Option (List Char)
  | [] => some []
  | .char c :: rest => (charsOf? rest).map (c :: ·)
  | .unit n :: rest =>
    if isHigh n then
      match rest with
      | .unit m :: rest =>
        if isLow m then
          (charsOf? rest).map (Char.ofNat (0x10000 + (n - 0xD800) * 0x400 + (m - 0xDC00)) :: ·)
        else none
      | _ => none
    else if isLow n then none
    else (charsOf? rest).map (Char.ofNat n :: ·)

/-- The text that pieces write. -/
def textOf? (pieces : List Piece) : Option String := (charsOf? pieces).map String.ofList

mutual

/-- The value of a document whose containers may nest `depth` deep. -/
def keepWithin (depth : Nat) : Document → Option Json
  | .null => some .null
  | .bool value => some (.bool value)
  | .number numeral => numeral.number?.map .number
  | .text pieces => (textOf? pieces).map .text
  | .array items =>
    match depth with
    | 0 => none
    | depth + 1 => (keepItems depth items).map .array
  | .object fields =>
    match depth with
    | 0 => none
    | depth + 1 => (keepFields depth fields).map Json.ofFields

/-- The values of a list of documents. -/
def keepItems (depth : Nat) : List Document → Option (List Json)
  | [] => some []
  | item :: items => do
    let value ← keepWithin depth item
    let values ← keepItems depth items
    return value :: values

/-- The fields of an object in the order they are written. -/
def keepFields (depth : Nat) : List (List Piece × Document) → Option (List (String × Json))
  | [] => some []
  | (key, item) :: items => do
    let name ← textOf? key
    let value ← keepWithin depth item
    let values ← keepFields depth items
    return (name, value) :: values

end

/-- How deep containers of a kept document may nest. -/
def maxDepth : Nat := 127

/-- The value of a document. -/
def keep? (doc : Document) : Option Json := doc.keepWithin maxDepth

end Document

/-- The value a text writes. -/
def Json.parse? (s : String) : Option Json := (Document.parse? s).bind Document.keep?

end GatewayProbe
