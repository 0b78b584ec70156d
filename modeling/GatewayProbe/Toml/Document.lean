/-
Reading TOML documents.

* `readValue` — a value; lists and braces may nest 79 deep;
* `readStatements` — the lines of a document;
* `Toml.parse?` — the table a text writes.
-/
import GatewayProbe.Toml.Growth
import GatewayProbe.Toml.Scalar

namespace GatewayProbe.Toml

/-- A character of a key without quotes. -/
def isKeyChar (c : Char) : Bool := c.isAlphanum || c = '_' || c = '-'

/-- Reads one part of a key and the blanks around it. -/
def readKeyPart (cs : List Char) : Option (String × List Char) :=
  let cs := skipGap cs
  match cs with
  | c :: _ =>
    if c = '"' ∨ c = '\'' then (readLineText cs).map fun (key, rest) => (key, skipGap rest)
    else
      let key := cs.takeWhile isKeyChar
      if key.isEmpty then none
      else some (String.ofList key, skipGap (cs.dropWhile isKeyChar))
  | [] => none

/-- Reads the parts of a key. -/
def readKeyParts : Nat → List Char → Option (List String × List Char)
  | 0, _ => none
  | fuel + 1, cs => do
    let (part, rest) ← readKeyPart cs
    match rest with
    | '.' :: rest =>
      let (parts, rest) ← readKeyParts fuel rest
      return (part :: parts, rest)
    | _ => return ([part], rest)

/-- How many parts a key may have at most. -/
def maxParts : Nat := 79

/-- Reads a key as the path to a table and the name in it. -/
def readKey (cs : List Char) : Option ((List String × String) × List Char) := do
  let (parts, rest) ← readKeyParts maxParts cs
  let key ← parts.getLast?
  return ((parts.dropLast, key), rest)

/-- Drops a comment up to the end of its line. A control character in it is refused. -/
def dropComment (cs : List Char) : Option (List Char) :=
  match cs with
  | '#' :: cs =>
    let rest := cs.dropWhile isPlain
    if rest.isEmpty || (break? rest).isSome then some rest else none
  | cs => some cs

/-- Drops blanks, comments and line breaks. -/
def skipFill : Nat → List Char → Option (List Char)
  | 0, cs => some cs
  | fuel + 1, cs => do
    let cs ← dropComment (skipGap cs)
    match break? cs with
    | some rest => skipFill fuel rest
    | none => return cs

mutual

/-- Reads a value whose lists and braces nest at most `depth` deep. -/
def readValue : Nat → Nat → List Char → Option (Toml × List Char)
  | 0, _, _ => none
  | fuel + 1, depth, cs =>
    match cs with
    | '"' :: _ | '\'' :: _ => (readText cs).map fun (value, rest) => (.text value, rest)
    | '[' :: rest =>
      match depth with
      | 0 => none
      | depth + 1 => (readItems fuel depth rest).map fun (items, rest) => (.list false items, rest)
    | '{' :: rest =>
      match depth with
      | 0 => none
      | depth + 1 =>
        match skipGap rest with
        | '}' :: rest => some (.table .braced [], rest)
        | _ => do
          let (pairs, rest) ← readPairs fuel depth rest
          let table ← ofPairs? pairs
          return (table, rest)
    | 't' :: _ => (strip? "true" cs).map fun rest => (.bool true, rest)
    | 'f' :: _ => (strip? "false" cs).map fun rest => (.bool false, rest)
    | _ => readNumber cs

/-- Reads the items of a list up to its closing bracket. A comma may stand before the bracket. -/
def readItems : Nat → Nat → List Char → Option (List Toml × List Char)
  | 0, _, _ => none
  | fuel + 1, depth, cs => do
    let cs ← skipFill cs.length cs
    match cs with
    | ']' :: rest => return ([], rest)
    | _ =>
      let (item, rest) ← readValue fuel depth cs
      let rest ← skipFill rest.length rest
      match rest with
      | ']' :: rest => return ([item], rest)
      | ',' :: rest =>
        let (items, rest) ← readItems fuel depth rest
        return (item :: items, rest)
      | _ => none

/-- Reads pairs up to the closing brace; there is at least one. -/
def readPairs : Nat → Nat → List Char → Option (List (List String × String × Toml) × List Char)
  | 0, _, _ => none
  | fuel + 1, depth, cs => do
    let ((path, key), rest) ← readKey cs
    let rest ← strip? "=" rest
    let (value, rest) ← readValue fuel depth (skipGap rest)
    match skipGap rest with
    | '}' :: rest => return ([(path, key, value)], rest)
    | ',' :: rest =>
      let (pairs, rest) ← readPairs fuel depth rest
      return ((path, key, value) :: pairs, rest)
    | _ => none

end

/-- How deep lists and braces may nest. -/
def maxDepth : Nat := 79

/-- Drops the rest of a line, which may hold blanks and a comment. -/
def endLine (cs : List Char) : Option (List Char) := do
  let cs ← dropComment (skipGap cs)
  if cs.isEmpty then return [] else break? cs

/-- Reads one statement and the end of its line. -/
def readStatement (cs : List Char) : Option (Statement × List Char) :=
  match cs with
  | '[' :: '[' :: rest => do
    let ((path, key), rest) ← readKey rest
    let rest ← strip? "]]" rest
    let rest ← endLine rest
    return (.row path key, rest)
  | '[' :: rest => do
    let ((path, key), rest) ← readKey rest
    let rest ← strip? "]" rest
    let rest ← endLine rest
    return (.header path key, rest)
  | cs => do
    let ((path, key), rest) ← readKey cs
    let rest ← strip? "=" rest
    let rest := skipGap rest
    let (value, rest) ← readValue (2 * rest.length + 2) maxDepth rest
    let rest ← endLine rest
    return (.pair path key value, rest)

/-- Reads all statements of a text. -/
def readStatements : Nat → List Char → Option (List Statement)
  | 0, cs => if cs.isEmpty then some [] else none
  | fuel + 1, cs => do
    let cs ← skipFill cs.length cs
    if cs.isEmpty then return []
    else
      let (statement, rest) ← readStatement cs
      let statements ← readStatements fuel rest
      return statement :: statements

/-- The table a text writes; a byte order mark in front is dropped. -/
def parse? (s : String) : Option Toml :=
  let cs := match s.toList with
    | '\uFEFF' :: cs => cs
    | cs => cs
  (readStatements (cs.length + 1) cs).bind ofStatements?

end GatewayProbe.Toml
