/-
Reading records from JSON documents.

A record is an object whose known fields each occur at most once; other fields are passed over, and
a known field that is missing takes its default. A record may also be written as a list of its
fields in their order, cut short anywhere but not longer.

* `Document.fields?` — the known fields a document writes, in either form;
* `Fields.read` — one field, or its default;
* `Document.text?`, `natural?`, `optional?`, `list?` — the readers for the content of fields.
-/
import GatewayProbe.Json.Document

namespace GatewayProbe

/-- Known fields of a record that were found in a document. -/
abbrev Fields := List (String × Document)

namespace Document

/-- The fields of an object that have one of the given names, none of them twice. -/
def objectFields? (names : List String) : Document → Option Fields
  | .object entries => do
    let named ← entries.mapM fun entry => (textOf? entry.1).map fun key => (key, entry.2)
    let known := named.filter fun entry => names.contains entry.1
    if names.all fun name => (known.filter fun entry => entry.1 = name).length ≤ 1 then some known
    else none
  | _ => none

/-- The fields of a record, written as an object or as a list in the order of their names. -/
def fields? (names : List String) : Document → Option Fields
  | .array items => if items.length ≤ names.length then some (names.zip items) else none
  | doc => doc.objectFields? names

/-- The content of a text. -/
def text? : Document → Option String
  | .text pieces => textOf? pieces
  | _ => none

/-- A whole number below `bound`. -/
def natural? (bound : Nat) : Document → Option Nat
  | .number numeral => numeral.natural? bound
  | _ => none

/-- A list whose items all read. -/
def list? {α : Type} (item : Document → Option α) : Document → Option (List α)
  | .array items => items.mapM item
  | _ => none

/-- Null, or content that reads. -/
def optional? {α : Type} (content : Document → Option α) : Document → Option (Option α)
  | .null => some none
  | doc => (content doc).map some

end Document

/-- The content of the field `name`, or the default where the record does not write it. -/
def Fields.read {α : Type} (fields : Fields) (name : String) (default : α)
    (content : Document → Option α) : Option α :=
  match fields.lookup name with
  | none => some default
  | some doc => content doc

end GatewayProbe
