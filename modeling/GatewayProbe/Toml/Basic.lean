/-
TOML values.

A table remembers how it came to be, because that decides which later lines may still add to it. A
list remembers whether it is a row of tables that headers may lengthen.

* `Toml` — the values;
* `Toml.Style` — the ways a table is defined;
* `Toml.entries?`, `Toml.items?` — the content of tables and lists.
-/

namespace GatewayProbe

/-- How a table was defined. -/
inductive Toml.Style where
  /-- By a header of its own, or as the whole document. -/
  | header
  /-- As a part of the path in another header. -/
  | implied
  /-- As a part of a dotted key. -/
  | dotted
  /-- Between braces. -/
  | braced
  deriving DecidableEq, Repr

/-- A TOML value. -/
inductive Toml where
  | text (value : String)
  | integer (value : Int)
  | float (value : Float)
  | bool (value : Bool)
  /-- A date, a time or both, in its standard form. -/
  | moment (written : String)
  /-- A list; it is `open` when headers with double brackets make it. -/
  | list (isOpen : Bool) (items : List Toml)
  | table (style : Toml.Style) (entries : List (String × Toml))

namespace Toml

/-- The key under which a date or time appears where a table is asked for. -/
def momentKey : String := "$__toml_private_datetime"

/-- The entries of a table. A date or time counts as a table with one entry. -/
def entries? : Toml → Option (List (String × Toml))
  | .table _ entries => some entries
  | .moment written => some [(momentKey, .text written)]
  | _ => none

/-- The items of a list. -/
def items? : Toml → Option (List Toml)
  | .list _ items => some items
  | _ => none

/-- The content of a text. -/
def text? : Toml → Option String
  | .text value => some value
  | _ => none

/-- A whole number that is not negative. -/
def natural? : Toml → Option Nat
  | .integer value => if 0 ≤ value then some value.toNat else none
  | _ => none

/-- A number as a double. -/
def float? : Toml → Option Float
  | .float value => some value
  | .integer value => some (Float.ofInt value)
  | _ => none

/-- A list or table without content. -/
def isHollow : Toml → Bool
  | .list _ items => items.isEmpty
  | .table _ entries => entries.isEmpty
  | _ => false

end Toml
end GatewayProbe
