/-
Lines of a text or of a body.

A line ends at a line feed, and one carriage return just before that line feed belongs to the
ending. What follows the last line feed is a line too, unless it is empty; a carriage return at
its end stays. The rule is stated once for any kind of unit, because bodies are cut into lines
before their bytes are read as characters.

* `splitLines` — the lines of a list of units;
* `lines` — the same on strings;
* `splitAtChar` — the parts between the occurrences of one character, empty ones included.
-/

namespace GatewayProbe.Text

variable {α : Type} [DecidableEq α]

/-- Drops one `unit` from the end of a list, if it is there. -/
def dropLast? (unit : α) (line : List α) : List α :=
  if line.getLast? = some unit then line.dropLast else line

/-- The lines of `units`, where `current` holds, in reverse, what was read of the present line. -/
def splitLinesFrom (feed cr : α) : List α → List α → List (List α)
  | [], current => if current.isEmpty then [] else [current.reverse]
  | u :: us, current =>
    if u = feed then dropLast? cr current.reverse :: splitLinesFrom feed cr us []
    else splitLinesFrom feed cr us (u :: current)

/-- The lines of a list of units, without their endings. -/
def splitLines (feed cr : α) (units : List α) : List (List α) :=
  splitLinesFrom feed cr units []

/-- The lines of a text. -/
def lines (s : String) : List String :=
  (splitLines '\n' '\r' s.toList).map String.ofList

/-- The parts of a list between the occurrences of `sep`; there is always at least one. -/
def splitChars (sep : Char) : List Char → List (List Char)
  | [] => [[]]
  | c :: cs =>
    if c = sep then [] :: splitChars sep cs
    else match splitChars sep cs with
      | [] => [[c]]
      | part :: parts => (c :: part) :: parts

theorem splitChars_append {sep : Char} {front rest : List Char} (h : sep ∉ front) :
    splitChars sep (front ++ sep :: rest) = front :: splitChars sep rest := by
  induction front with
  | nil => rw [List.nil_append, splitChars, if_pos rfl]
  | cons c front ih =>
    rw [List.mem_cons, not_or] at h
    rw [List.cons_append, splitChars, if_neg (Ne.symm h.1), ih h.2]

/-- The parts of a text between the occurrences of `sep`, empty ones included. -/
def splitAtChar (sep : Char) (s : String) : List String :=
  (splitChars sep s.toList).map String.ofList

end GatewayProbe.Text
