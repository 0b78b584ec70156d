/-
What a text goes on with, as far as it decides the columns of the character before.

A text is measured from its end, since a letter that joins the next one, or a picture drawn from
several characters, is complete only there. What has been read so far is kept as a `Context`: a
`Joint`, which the character before may fasten to, and a `Selector`, which asks it for one of its
forms.

* `Ligature`, `Picture` — the two kinds of joint: letters of a script, and pictures;
* `Ligature.take?`, `Picture.take?` — the columns of a character that fastens to a joint, and what
  the two are together to the character before them.
-/
import GatewayProbe.Text.Width.Ranges

namespace GatewayProbe.Text

/-- The letter a ligature ends in, with what has been read of the ligature.

A joined letter has a zero width joiner before it. -/
inductive Ligature where
  /-- An Arabic alef, which a lam joins. -/
  | alef
  /-- A Hebrew lamed, which an alef joins. -/
  | lamed (joined : Bool)
  /-- A Khmer letter, which a coeng sign sets below the one before. -/
  | subscript
  /-- A Buginese ya, which the vowel sign i joins. -/
  | ya (joined : Bool)
  /-- The vowel sign i before a joined ya, which the letter a joins. -/
  | vowelYa
  /-- A Tifinagh consonant, which another one joins. -/
  | consonant (joined : Bool)
  /-- A Tifinagh consonant with the consonant joiner before it. -/
  | joinerConsonant
  /-- A Lisu tone letter that makes a pair with another one. -/
  | tone
  /-- An Old Turkic i, which the ligature letter joins. -/
  | orkhonI (joined : Bool)
  /-- The Kirat Rai vowel sign e. -/
  | vowelE
  /-- The Kirat Rai vowel sign ai. -/
  | vowelAI
  deriving DecidableEq, Repr

/-- A picture, with what has been read of the characters it is drawn from. -/
inductive Picture where
  /-- A picture that is complete. -/
  | whole
  /-- A skin tone, which a picture of a person takes up. -/
  | modifier
  /-- One of the letters that make a flag in pairs. -/
  | flagLetter
  /-- Two such letters or more. -/
  | flagLetters
  /-- A zero width joiner before a picture. -/
  | joiner
  /-- A keycap before such a joiner. -/
  | keycap
  /-- A letter of a flag before such a joiner. -/
  | joinedLetter
  /-- Two such letters or more, with the parity of their number. -/
  | joinedLetters (odd : Bool)
  /-- The end of the tags that name a flag, with the letters read so far. -/
  | tagLetters (count : Nat)
  /-- The end of such tags, with the digits read so far. -/
  | tagDigits (count : Nat)
  deriving DecidableEq, Repr

/-- What the character before may fasten to. -/
inductive Joint where
  | plain
  | lineFeed
  | ligature (kind : Ligature)
  | picture (kind : Picture)
  deriving DecidableEq, Repr

/-- The form that a selector asks for of the character before it. -/
inductive Selector where
  | unset
  | text
  | emoji
  /-- A quotation mark as wide as an ideograph. -/
  | fullwidth
  deriving DecidableEq, Repr

/-- What a text goes on with. -/
structure Context where
  joint : Joint := .plain
  selector : Selector := .unset
  deriving DecidableEq, Repr

/-- Columns, with what the text that takes them is to the character before. -/
abbrev Measure := Int × Context

/-- A number of columns that leaves a joint. -/
def Joint.after (joint : Joint) (columns : Int) : Measure := (columns, { joint })

/-- The selector that a character is. -/
def selector? (c : Char) : Option Selector :=
  match c.toNat with
  | 0xFE01 => some .fullwidth
  | 0xFE0E => some .text
  | 0xFE0F => some .emoji
  | _ => none

/-- The zero width joiner. -/
def isZeroWidthJoiner (c : Char) : Bool := c.toNat = 0x200D

/-- The letters that flags are written in. -/
def isFlagLetter (c : Char) : Bool := inRanges [(0x1F1E6, 0x1F1FF)] c

/-- The five skin tones. -/
def isSkinTone (c : Char) : Bool := inRanges [(0x1F3FB, 0x1F3FF)] c

/-- The Tifinagh consonants. -/
def isTifinaghConsonant (c : Char) : Bool := inRanges [(0x2D31, 0x2D65), (0x2D6F, 0x2D6F)] c

/-- The letters that an alef makes one letter with. -/
def isLam (c : Char) : Bool :=
  inRanges [(0x644, 0x644), (0x6B5, 0x6B8), (0x76A, 0x76A), (0x8A6, 0x8A6), (0x8C7, 0x8C7)] c

/-- The marks over or under a letter that leave it joined to the next one. -/
def isTransparent (c : Char) : Bool := inRanges zeroRanges c && !inRanges opaqueRanges c

/-- A zero width joiner before a ligature's letter. -/
def Ligature.join : Ligature → Ligature
  | .lamed _ => .lamed true
  | .ya _ => .ya true
  | .consonant _ => .consonant true
  | .orkhonI _ => .orkhonI true
  | kind => kind

/-- The columns of a character that goes on with a ligature, if it does. -/
def Ligature.extend? (c : Char) : Ligature → Option Measure
  | .alef =>
    if isLam c then some (Joint.plain.after 0)
    else if isTransparent c then some ((Joint.ligature .alef).after 0)
    else none
  | .lamed true => if c.toNat = 0x5D0 then some (Joint.plain.after 0) else none
  | .subscript => if c.toNat = 0x17D2 then some (Joint.plain.after (-1)) else none
  | .ya true => if c.toNat = 0x1A17 then some ((Joint.ligature .vowelYa).after 0) else none
  | .vowelYa => if c.toNat = 0x1A15 then some (Joint.plain.after 0) else none
  | .consonant joined =>
    if c.toNat = 0x2D7F then some ((Joint.ligature .joinerConsonant).after 1)
    else if joined && isTifinaghConsonant c then some (Joint.plain.after 0)
    else none
  | .joinerConsonant => if isTifinaghConsonant c then some (Joint.plain.after (-1)) else none
  | .tone => if inRanges [(0xA4F8, 0xA4FB)] c then some (Joint.plain.after 0) else none
  | .orkhonI true => if c.toNat = 0x10C32 then some (Joint.plain.after 0) else none
  | .vowelE => match c.toNat with
    | 0x16D63 | 0x16D69 => some (Joint.plain.after 0)
    | 0x16D67 => some ((Joint.ligature .vowelAI).after 0)
    | 0x16D68 => some ((Joint.ligature .vowelE).after 1)
    | _ => none
  | .vowelAI => if c.toNat = 0x16D63 then some (Joint.plain.after 0) else none
  | _ => none

/-- The columns of a character that fastens to a ligature, if it does. Marks that a screen may leave
out, and joiners, part no ligature but the one of lam and alef, which joins of itself. -/
def Ligature.take? (c : Char) (kind : Ligature) : Option Measure :=
  if kind ≠ .alef ∧ isZeroWidthJoiner c then some ((Joint.ligature kind.join).after 0)
  else if kind ≠ .alef ∧ inRanges ignorableMarkRanges c then
    some ((Joint.ligature kind).after 0)
  else kind.extend? c

/-- The columns of a character before a joiner and a picture, if it draws with them. -/
def Picture.beforeJoiner? (c : Char) : Option Measure :=
  if c.toNat = 0x20E3 then some ((Joint.picture .keycap).after 0)
  else if isFlagLetter c then some ((Joint.picture .joinedLetter).after 1)
  else if isSkinTone c then some ((Joint.picture .modifier).after 0)
  else if c.toNat = 0xE007F then some ((Joint.picture (.tagLetters 0)).after 0)
  else if inRanges emojiRanges c then some ((Joint.picture .whole).after 0)
  else none

/-- The columns of a character before tags that name a flag, if it draws with them. The tags are up
to six letters, or three digits and up to four letters behind them; the flag itself stands before
three letters or more, or before three digits. -/
def Picture.beforeTags? (c : Char) (letters digits : Nat) : Option Measure :=
  if inRanges [(0xE0061, 0xE007A)] c ∧ digits = 0 ∧ letters < 6 then
    some ((Joint.picture (.tagLetters (letters + 1))).after 0)
  else if inRanges [(0xE0030, 0xE0039)] c ∧ letters ≤ 4 ∧ digits < 3 then
    some ((Joint.picture (.tagDigits (digits + 1))).after 0)
  else if c.toNat = 0x1F3F4 ∧ (3 ≤ letters ∨ digits = 3) then
    some ((Joint.picture .whole).after 0)
  else none

/-- The columns of a character that fastens to a picture, if it does.

Letters of flags pair from the first of them, which is met last. A pair takes two columns, but none
where a joiner fastens it to a picture, so each further letter there corrects the sum. -/
def Picture.take? (c : Char) (kind : Picture) : Option Measure :=
  match kind with
  | .whole => if isZeroWidthJoiner c then some ((Joint.picture .joiner).after 0) else none
  | .modifier =>
    if inRanges modifierBaseRanges c then some ((Joint.picture .whole).after 0)
    else if isZeroWidthJoiner c then some ((Joint.picture .joiner).after 0)
    else none
  | .flagLetter => if isFlagLetter c then some ((Joint.picture .flagLetters).after 1) else none
  | .flagLetters =>
    if isFlagLetter c then some ((Joint.picture .flagLetters).after 1)
    else if isZeroWidthJoiner c then some ((Joint.picture .joiner).after 0)
    else none
  | .joiner => beforeJoiner? c
  | .keycap => none
  | .joinedLetter =>
    if isFlagLetter c then some ((Joint.picture (.joinedLetters false)).after (-1)) else none
  | .joinedLetters odd =>
    if isFlagLetter c then
      if odd then some ((Joint.picture (.joinedLetters false)).after (-1))
      else some ((Joint.picture (.joinedLetters true)).after 3)
    else if isZeroWidthJoiner c then some ((Joint.picture .joiner).after 0)
    else none
  | .tagLetters count => beforeTags? c count 0
  | .tagDigits count => beforeTags? c 0 count

/-- The columns of a character that fastens to a joint, if it does. -/
def Joint.take? (c : Char) : Joint → Option Measure
  | .plain => none
  | .lineFeed => if c = '\r' then some (Joint.plain.after 0) else none
  | .ligature kind => kind.take? c
  | .picture kind => kind.take? c

/-- What is left of a joint behind a selector that the character before it does not take. -/
def Joint.withoutPicture : Joint → Joint
  | .ligature kind => .ligature kind
  | _ => .plain

/-- A joiner that fastens a picture to the next one. -/
def Joint.joinsPicture : Joint → Bool
  | .picture .joiner | .picture .keycap => true
  | _ => false

/-- What is left of a joint behind a selector: a picture can still be joined to the next one. -/
def Joint.behind (joint : Joint) (selector : Selector) : Joint :=
  if selector = .emoji ∧ joint.joinsPicture then joint else joint.withoutPicture

/-- The columns of a character that takes the form a selector asks for, if it does. -/
def Context.select? (c : Char) (next : Context) : Option Measure :=
  match next.selector with
  | .unset => none
  | .emoji =>
    if inRanges formRanges c then
      some ((Joint.picture .whole).after (if next.joint.joinsPicture then 0 else 2))
    else none
  | .text =>
    if inRanges formRanges c && inRanges emojiRanges c && !inRanges [(0x1F200, 0x1F2FF)] c then
      some (Joint.plain.after 1)
    else none
  | .fullwidth =>
    if inRanges [(0x2018, 0x2019), (0x201C, 0x201D)] c then some (Joint.plain.after 2) else none

end GatewayProbe.Text
