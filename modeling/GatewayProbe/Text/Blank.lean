/-
Blank characters and trimming.

A character is blank when it has the Unicode property White_Space. Names, urls, header values and
body lines are all trimmed by this one rule, so two texts that differ only in blanks around them
are the same text to every other module.

* `isBlank` — the property, as a table of ranges;
* `trim` — both ends of a list of characters, `Text.trim` the same on strings;
* `isBlankText` — nothing is left after trimming.
-/

namespace GatewayProbe.Text

/-- The code points with the property White_Space, as closed ranges in ascending order. -/
def blankRanges : List (Nat × Nat) :=
  [(0x09, 0x0D), (0x20, 0x20), (0x85, 0x85), (0xA0, 0xA0), (0x1680, 0x1680), (0x2000, 0x200A),
   (0x2028, 0x2029), (0x202F, 0x202F), (0x205F, 0x205F), (0x3000, 0x3000)]

/-- Membership of a character in a list of closed ranges of code points. -/
def inRanges (ranges : List (Nat × Nat)) (c : Char) : Bool :=
  ranges.any fun r => r.1 ≤ c.toNat && c.toNat ≤ r.2

/-- The Unicode property White_Space. -/
def isBlank (c : Char) : Bool := inRanges blankRanges c

/-- Drops the longest run of characters at the end that satisfy `p`. -/
def dropEndWhile (p : Char → Bool) (cs : List Char) : List Char :=
  (cs.reverse.dropWhile p).reverse

/-- Removes the blanks at both ends of a list of characters. -/
def trimChars (cs : List Char) : List Char := dropEndWhile isBlank (cs.dropWhile isBlank)

/-- Removes the blanks at both ends of a text. -/
def trim (s : String) : String := String.ofList (trimChars s.toList)

/-- A text is blank when it holds no character that is not. -/
def isBlankText (s : String) : Bool := s.toList.all isBlank

/-- The trimmed text, unless nothing is left of it. -/
def nonBlank? (s : String) : Option String :=
  if isBlankText s then none else some (trim s)

end GatewayProbe.Text
