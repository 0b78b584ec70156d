/-
Comparison of texts up to the case of ASCII letters, and search for a part of a text.

Backend types, header names and translator names are matched this way. Letters outside ASCII are
compared as they stand: `É` and `é` are different types.

* `lowerAscii` — every ASCII capital becomes small, nothing else changes;
* `eqIgnoreCase` — equality up to that;
* `contains` — one text occurs in another.
-/

namespace GatewayProbe.Text

/-- Makes the ASCII capitals of a text small. -/
def lowerAscii (s : String) : String := String.ofList (s.toList.map Char.toLower)

/-- Equality up to the case of ASCII letters. -/
def eqIgnoreCase (s t : String) : Bool := lowerAscii s == lowerAscii t

/-- The characters `part` occur next to each other somewhere in a list. -/
def occursIn (part : List Char) : List Char → Bool
  | [] => part.isEmpty
  | c :: cs => part.isPrefixOf (c :: cs) || occursIn part cs

/-- The text `part` occurs in `s`. -/
def contains (s part : String) : Bool := occursIn part.toList s.toList

theorem occursIn_iff {part cs : List Char} : occursIn part cs = true ↔ part <:+: cs := by
  induction cs with
  | nil => simp [occursIn]
  | cons c cs ih =>
    rw [occursIn, Bool.or_eq_true, ih, List.isPrefixOf_iff_prefix, List.infix_cons_iff]

/-- Search finds a part exactly where the text holds it as a block. -/
theorem contains_iff {s part : String} : contains s part = true ↔ part.toList <:+: s.toList :=
  occursIn_iff

/-- The text `s` begins with `start`. -/
def startsWith (s start : String) : Bool := start.toList.isPrefixOf s.toList

end GatewayProbe.Text
