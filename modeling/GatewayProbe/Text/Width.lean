/-
The width of a text in a terminal.

Tables are laid out in columns of a fixed-width screen. A character takes one column there, an
East Asian wide or fullwidth one two and a combining or invisible one none; but a picture drawn
from several characters takes two columns in all, and letters that are written as one take the
columns of one. A text is therefore measured from its end, where what follows a character is known.

* `charWidth` — columns of a character that nothing follows;
* `measure` — columns of a character before a context, `prepend` the same for all that follows;
* `width` — columns of a text.
-/
import GatewayProbe.Text.Width.Context

namespace GatewayProbe.Text

/-- The columns of a character that nothing follows. -/
def charWidth (c : Char) : Nat :=
  if c.toNat ≤ 0xA0 then 1
  else match c.toNat with
    | 0x115F | 0x17A4 => 2
    | 0x17D8 => 3
    | _ => if inRanges zeroRanges c then 0 else if inRanges wideRanges c then 2 else 1

/-- The Khmer letters with a form below another letter. -/
def subscriptRanges : List (Nat × Nat) :=
  [(0x1780, 0x1782), (0x1784, 0x1787), (0x1789, 0x178C), (0x178E, 0x1793), (0x1795, 0x1798),
   (0x179B, 0x179D), (0x17A0, 0x17A0), (0x17A2, 0x17A2), (0x17A7, 0x17A7), (0x17AB, 0x17AC),
   (0x17AF, 0x17AF)]

/-- The letters written as an alef with or without a sign. -/
def alefRanges : List (Nat × Nat) :=
  [(0x622, 0x623), (0x625, 0x625), (0x627, 0x627), (0x671, 0x673), (0x675, 0x675),
   (0x773, 0x774), (0x870, 0x882)]

/-- The ligature that a letter can end, if any. -/
def Ligature.ending? (c : Char) : Option Ligature :=
  if inRanges alefRanges c then some .alef
  else if inRanges subscriptRanges c then some .subscript
  else if isTifinaghConsonant c then some (.consonant false)
  else match c.toNat with
    | 0x5DC => some (.lamed false)
    | 0x1A10 => some (.ya false)
    | 0xA4FC | 0xA4FD => some .tone
    | 0x10C03 => some (.orkhonI false)
    | 0x16D67 => some .vowelE
    | 0x16D68 => some .vowelAI
    | _ => none

/-- The picture that a character can end, if any. -/
def Picture.ending? (c : Char) : Option Picture :=
  if isFlagLetter c then some .flagLetter
  else if isSkinTone c then some .modifier
  else if inRanges emojiRanges c then some .whole
  else none

/-- What a character is to the one before it. -/
def Joint.starting (c : Char) : Joint :=
  match Ligature.ending? c, Picture.ending? c with
  | some kind, _ => .ligature kind
  | none, some kind => .picture kind
  | none, none => if c = '\n' then .lineFeed else .plain

/-- The columns of a character before a context. -/
def measure (c : Char) (next : Context) : Measure :=
  match next.select? c with
  | some measured => measured
  | none =>
    let joint := if next.selector = .unset then next.joint else next.joint.withoutPicture
    match selector? c with
    | some selector => (0, { joint := joint.behind selector, selector })
    | none => (joint.take? c).getD ((Joint.starting c).after (charWidth c))

/-- A text with a character put before it. -/
def prepend (c : Char) (rest : Measure) : Measure :=
  let (columns, joined) := measure c rest.2
  (rest.1 + columns, joined)

/-- The columns a text takes on a screen. -/
def width (s : String) : Nat := (s.toList.foldr prepend (0, {})).1.toNat

end GatewayProbe.Text
