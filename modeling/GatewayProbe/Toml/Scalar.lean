/-
Numbers, dates and texts in TOML.

Each reader takes a value from the front of a list of characters and gives it with what follows.
A reader fails both on text of another kind and on malformed text of its own kind: no text is well
formed in two of them, so a failure here is a failure of the document unless another reader fits.

* `readText` — the four kinds of quoted texts;
* `readInteger`, `readFloat`, `readMoment` — what starts with a sign or a digit.
-/
import GatewayProbe.Decimal.Read
import GatewayProbe.Json.Document
import GatewayProbe.Toml.Basic

namespace GatewayProbe.Toml

/-- A reader of values of one kind. -/
abbrev Reader (α : Type) := List Char → Option (α × List Char)

/-- Drops `word` from the front of a text. -/
def strip? (word : String) (cs : List Char) : Option (List Char) :=
  if word.toList.isPrefixOf cs then some (cs.drop word.length) else none

/-- Blanks inside a line. -/
def isGap (c : Char) : Bool := c = ' ' || c = '\t'

/-- Drops blanks inside a line. -/
def skipGap (cs : List Char) : List Char := cs.dropWhile isGap

/-- Drops a line break: a line feed, or a carriage return and a line feed. -/
def break? : List Char → Option (List Char)
  | '\n' :: cs => some cs
  | '\r' :: '\n' :: cs => some cs
  | _ => none

/-- A character that may stand unescaped in texts and comments. -/
def isPlain (c : Char) : Bool := c = '\t' || (0x20 ≤ c.toNat && c.toNat ≠ 0x7F)

/-- The number written by hexadecimal digits. -/
def hexNumber? (ds : List Char) : Option Nat :=
  ds.foldlM (fun n d => (Document.hexDigit? d).map (n * 16 + ·)) 0

/-- The character of a code point given by `size` hexadecimal digits. -/
def readCodePoint (size : Nat) (cs : List Char) : Option (Char × List Char) :=
  let ds := cs.take size
  if ds.length < size then none
  else (hexNumber? ds).bind fun n =>
    if h : n.isValidChar then some (Char.ofNatAux n h, cs.drop size) else none

/-- Reads what follows a backslash. -/
def readEscape : Reader Char
  | 'b' :: cs => some ('\x08', cs)
  | 't' :: cs => some ('\t', cs)
  | 'n' :: cs => some ('\n', cs)
  | 'f' :: cs => some ('\x0c', cs)
  | 'r' :: cs => some ('\r', cs)
  | '"' :: cs => some ('"', cs)
  | '\\' :: cs => some ('\\', cs)
  | 'u' :: cs => readCodePoint 4 cs
  | 'U' :: cs => readCodePoint 8 cs
  | _ => none

/-- Drops blanks and line breaks. -/
def skipBreaks : Nat → List Char → List Char
  | 0, cs => cs
  | fuel + 1, cs =>
    let cs := skipGap cs
    match break? cs with
    | some rest => skipBreaks fuel rest
    | none => cs

/-- Reads a text on one line up to the quote that ends it. -/
def readLine (quote : Char) : Nat → Reader (List Char)
  | 0, _ => none
  | fuel + 1, cs =>
    match cs with
    | [] => none
    | c :: rest =>
      if c = quote then some ([], rest)
      else if c = '\\' ∧ quote = '"' then do
        let (e, rest) ← readEscape rest
        let (tail, rest) ← readLine quote fuel rest
        return (e :: tail, rest)
      else if isPlain c then (readLine quote fuel rest).map fun (tail, rest) => (c :: tail, rest)
      else none

/-- Reads a text on several lines up to the three quotes that end it. Up to two quotes just before
those three belong to the text, and a line break counts as a line feed. -/
def readBlock (quote : Char) : Nat → Reader (List Char)
  | 0, _ => none
  | fuel + 1, cs =>
    match cs with
    | [] => none
    | c :: rest =>
      if c = quote then
        let run := cs.takeWhile (· = quote)
        if run.length < 3 then
          (readBlock quote fuel (cs.drop run.length)).map fun (tail, rest) => (run ++ tail, rest)
        else
          let kept := min (run.length - 3) 2
          some (List.replicate kept quote, cs.drop (kept + 3))
      else if c = '\\' ∧ quote = '"' then
        match break? (skipGap rest) with
        | some after => readBlock quote fuel (skipBreaks after.length after)
        | none => do
          let (e, rest) ← readEscape rest
          let (tail, rest) ← readBlock quote fuel rest
          return (e :: tail, rest)
      else match break? cs with
        | some after => (readBlock quote fuel after).map fun (tail, rest) => ('\n' :: tail, rest)
        | none =>
          if isPlain c then (readBlock quote fuel rest).map fun (tail, rest) => (c :: tail, rest)
          else none

/-- Reads a text on one line. -/
def readLineText : Reader String
  | [] => none
  | quote :: cs =>
    if quote = '"' ∨ quote = '\'' then
      (readLine quote (cs.length + 1) cs).map fun (chars, rest) => (String.ofList chars, rest)
    else none

/-- Reads a quoted text of any kind. A line break right after three opening quotes is dropped. -/
def readText (cs : List Char) : Option (String × List Char) :=
  match cs with
  | a :: b :: c :: rest =>
    if a = b ∧ b = c ∧ (a = '"' ∨ a = '\'') then
      let body := (break? rest).getD rest
      (readBlock a (body.length + 1) body).map fun (chars, rest) => (String.ofList chars, rest)
    else readLineText cs
  | _ => readLineText cs

/-- Reads digits of a kind, where single underscores may stand between two of them. -/
def readDigits (isDigit : Char → Bool) : Reader (List Char)
  | [] => none
  | d :: cs =>
    if !isDigit d then none
    else match cs with
      | '_' :: cs => (readDigits isDigit cs).map fun (ds, rest) => (d :: ds, rest)
      | c :: cs =>
        if isDigit c then (readDigits isDigit (c :: cs)).map fun (ds, rest) => (d :: ds, rest)
        else some ([d], c :: cs)
      | [] => some ([d], [])

/-- Reads the digits of a whole number: a zero stands alone. -/
def readWhole : Reader (List Char)
  | '0' :: cs => some (['0'], cs)
  | cs => readDigits Char.isDigit cs

/-- A whole number that fits 64 signed bits. -/
def word? (n : Int) : Option Toml :=
  if Decimal.isSigned64 n then some (.integer n) else none

/-- The number written by digits in a base up to sixteen. -/
def inBase (base : Nat) (ds : List Char) : Nat :=
  ds.foldl (fun n d => n * base + (Document.hexDigit? d).getD 0) 0

/-- Reads digits in a base after its mark. -/
def readBased (base : Nat) (cs : List Char) : Option (Toml × List Char) := do
  let isDigit (c : Char) : Bool := (Document.hexDigit? c).any (· < base)
  let (ds, rest) ← readDigits isDigit cs
  let value ← word? (inBase base ds)
  return (value, rest)

/-- Reads a whole number. -/
def readInteger (cs : List Char) : Option (Toml × List Char) :=
  match cs with
  | '0' :: 'x' :: cs => readBased 16 cs
  | '0' :: 'o' :: cs => readBased 8 cs
  | '0' :: 'b' :: cs => readBased 2 cs
  | cs => do
    let (negative, cs) := Decimal.splitSign cs
    let (ds, rest) ← readWhole cs
    let size : Int := Decimal.ofDigits ds
    let value ← word? (if negative then -size else size)
    return (value, rest)

/-- Reads a point and the digits after it; gives the digits, or none where no point stands. -/
def readPoint : Reader (Option (List Char))
  | '.' :: cs => (readDigits Char.isDigit cs).map fun (ds, rest) => (some ds, rest)
  | cs => some (none, cs)

/-- Reads an exponent; gives its sign and digits, or none where no mark stands. -/
def readPower : Reader (Option (List Char))
  | [] => some (none, [])
  | c :: cs =>
    if c = 'e' ∨ c = 'E' then
      let (negative, cs) := Decimal.splitSign cs
      (readDigits Char.isDigit cs).map fun (ds, rest) =>
        (some ('e' :: (if negative then '-' :: ds else ds)), rest)
    else some (none, c :: cs)

/-- Reads a number with a fraction or an exponent, or one of the words for infinity and NaN. A
positive number too large for a double is refused. -/
def readFloat (cs : List Char) : Option (Toml × List Char) :=
  let (negative, body) := Decimal.splitSign cs
  match strip? "inf" body, strip? "nan" body with
  | some rest, _ => some (.float (if negative then -(1.0 / 0.0) else 1.0 / 0.0), rest)
  | _, some rest => some (.float (0.0 / 0.0), rest)
  | none, none => do
    let (whole, rest) ← readWhole body
    let (fraction, rest) ← readPoint rest
    let (power, rest) ← readPower rest
    if fraction.isNone && power.isNone then none
    else
      let exponent ← Decimal.exponent? (power.getD [])
      let places := fraction.getD []
      let value := Decimal.nearest negative (Decimal.ofDigits (whole ++ places))
        (exponent - Int.ofNat places.length)
      if value == 1.0 / 0.0 then none else some (.float value, rest)

/-- Reads exactly `size` decimal digits as a number between two bounds. -/
def readField (size low high : Nat) (cs : List Char) : Option (Nat × List Char) :=
  let ds := cs.take size
  if ds.length = size ∧ ds.all Char.isDigit ∧ low ≤ Decimal.ofDigits ds ∧ Decimal.ofDigits ds ≤ high
  then some (Decimal.ofDigits ds, cs.drop size) else none

/-- The days of a month. -/
def daysIn (year month : Nat) : Nat :=
  if month = 2 then
    if year % 4 = 0 ∧ (year % 100 ≠ 0 ∨ year % 400 = 0) then 29 else 28
  else if [4, 6, 9, 11].contains month then 30 else 31

/-- Reads a date; gives its standard form. -/
def readDate (cs : List Char) : Option (List Char × List Char) := do
  let (year, cs) ← readField 4 0 9999 cs
  let cs ← strip? "-" cs
  let (month, cs) ← readField 2 1 12 cs
  let cs ← strip? "-" cs
  let (day, cs) ← readField 2 1 31 cs
  if daysIn year month < day then none
  else return (Decimal.padded 4 year ++ '-' :: (Decimal.padded 2 month ++
    '-' :: Decimal.padded 2 day), cs)

/-- Drops zeros at the end of a fraction. -/
def trimZeros (ds : List Char) : List Char := (ds.reverse.dropWhile (· = '0')).reverse

/-- Reads a time of day; gives its standard form, with nanoseconds at most. -/
def readTime (cs : List Char) : Option (List Char × List Char) := do
  let (hour, cs) ← readField 2 0 23 cs
  let cs ← strip? ":" cs
  let (minute, cs) ← readField 2 0 59 cs
  let cs ← strip? ":" cs
  let (second, cs) ← readField 2 0 60 cs
  let clock := Decimal.padded 2 hour ++ ':' :: (Decimal.padded 2 minute ++
    ':' :: Decimal.padded 2 second)
  match cs with
  | '.' :: rest =>
    let ds := rest.takeWhile Char.isDigit
    if ds.isEmpty then return (clock, cs)
    else
      let kept := trimZeros (ds.take 9)
      return (if kept.isEmpty then clock else clock ++ '.' :: kept, rest.dropWhile Char.isDigit)
  | _ => return (clock, cs)

/-- Reads the distance from universal time, if one is given; gives its standard form. -/
def readOffset (cs : List Char) : Option (List Char × List Char) :=
  match cs with
  | [] => some ([], [])
  | c :: rest =>
    if c = 'Z' ∨ c = 'z' then some (['Z'], rest)
    else if c = '+' ∨ c = '-' then do
      let (hour, rest) ← readField 2 0 23 rest
      let rest ← strip? ":" rest
      let (minute, rest) ← readField 2 0 59 rest
      let sign := if c = '-' ∧ hour * 60 + minute ≠ 0 then '-' else '+'
      return (sign :: (Decimal.padded 2 hour ++ ':' :: Decimal.padded 2 minute), rest)
    else some ([], cs)

/-- Reads the time after a date, if one is given. -/
def readDateTail (cs : List Char) : Option (List Char × List Char) :=
  match cs with
  | [] => some ([], [])
  | c :: rest =>
    if c = 'T' ∨ c = 't' ∨ c = ' ' then
      match readTime rest with
      | some (time, rest) => do
        let (offset, rest) ← readOffset rest
        return ('T' :: (time ++ offset), rest)
      | none => some ([], cs)
    else some ([], cs)

/-- Reads a date, a time or both. -/
def readMoment (cs : List Char) : Option (Toml × List Char) :=
  match readDate cs with
  | some (date, rest) => do
    let (tail, rest) ← readDateTail rest
    return (.moment (String.ofList (date ++ tail)), rest)
  | none => (readTime cs).map fun (time, rest) => (.moment (String.ofList time), rest)

/-- Reads what starts with a sign or a digit. -/
def readNumber (cs : List Char) : Option (Toml × List Char) :=
  readMoment cs <|> readFloat cs <|> readInteger cs

end GatewayProbe.Toml
