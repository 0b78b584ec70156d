/-
Reading bytes as text.

Two readings are needed. A file or a body line must be well-formed UTF-8 and is refused otherwise.
A body that is shown or parsed as a whole is read leniently: its byte order mark, or else the
charset its content type names, decides the encoding, and every malformed piece becomes U+FFFD.

* `utf8?` — the strict reading;
* `lenientUtf8` — one U+FFFD per maximal malformed piece;
* `bodyText` — the lenient reading of a whole body.
-/
import GatewayProbe.Text.Ascii
import GatewayProbe.Text.Blank
import GatewayProbe.Text.Lines

namespace GatewayProbe.Text

/-- The text written in UTF-8 by `bytes`, if they are well formed. -/
def utf8? (bytes : List UInt8) : Option String := String.fromUTF8? ⟨bytes.toArray⟩

/-- The bytes of a text in UTF-8. -/
def toUtf8 (s : String) : List UInt8 := s.toUTF8.toList

/-- The character shown for a malformed piece of a body. -/
def replacement : Char := '\uFFFD'

/-- For a first byte: how many bytes must follow, the bounds of the next one, and its own bits. -/
def leadByte (b : Nat) : Option (Nat × Nat × Nat × Nat) :=
  if 0xC2 ≤ b && b ≤ 0xDF then some (1, 0x80, 0xBF, b - 0xC0)
  else if b = 0xE0 then some (2, 0xA0, 0xBF, 0)
  else if b = 0xED then some (2, 0x80, 0x9F, 0xD)
  else if 0xE1 ≤ b && b ≤ 0xEF then some (2, 0x80, 0xBF, b - 0xE0)
  else if b = 0xF0 then some (3, 0x90, 0xBF, 0)
  else if 0xF1 ≤ b && b ≤ 0xF3 then some (3, 0x80, 0xBF, b - 0xF0)
  else if b = 0xF4 then some (3, 0x80, 0x8F, 4)
  else none

/-- State of the lenient reading: bytes still due, bounds of the next one, bits read so far. -/
structure Pending where
  due : Nat
  low : Nat
  high : Nat
  bits : Nat

/-- Reads a byte that begins a character. -/
def beginChar (b : Nat) : List Char × Option Pending :=
  if b < 0x80 then ([Char.ofNat b], none)
  else match leadByte b with
    | some (due, low, high, bits) => ([], some ⟨due, low, high, bits⟩)
    | none => ([replacement], none)

/-- Reads one byte. A byte that does not fit the piece in hand ends it and begins a new one. -/
def lenientStep (state : Option Pending) (b : Nat) : List Char × Option Pending :=
  match state with
  | none => beginChar b
  | some p =>
    if p.low ≤ b && b ≤ p.high then
      let bits := p.bits * 64 + (b - 0x80)
      if p.due = 1 then ([Char.ofNat bits], none) else ([], some ⟨p.due - 1, 0x80, 0xBF, bits⟩)
    else
      let (out, next) := beginChar b
      (replacement :: out, next)

/-- The lenient reading of UTF-8 from a given state. -/
def lenientFrom (state : Option Pending) : List UInt8 → List Char
  | [] => if state.isSome then [replacement] else []
  | b :: bs =>
    let (out, next) := lenientStep state b.toNat
    out ++ lenientFrom next bs

/-- Reads UTF-8, with one U+FFFD for each maximal malformed piece. -/
def lenientUtf8 (bytes : List UInt8) : List Char := lenientFrom none bytes

/-- The 16-bit units of a list of bytes; a lone last byte counts as a malformed unit. -/
def units16 (bigEndian : Bool) : List UInt8 → List (Option Nat)
  | [] => []
  | [_] => [none]
  | a :: b :: rest =>
    some (if bigEndian then a.toNat * 256 + b.toNat else b.toNat * 256 + a.toNat)
      :: units16 bigEndian rest

/-- Reads 16-bit units, with one U+FFFD for each surrogate that has no partner. -/
def lenientUtf16 : List (Option Nat) → List Char
  | [] => []
  | none :: rest => replacement :: lenientUtf16 rest
  | some high :: some low :: rest =>
    if 0xD800 ≤ high && high < 0xDC00 then
      if 0xDC00 ≤ low && low < 0xE000 then
        Char.ofNat (0x10000 + (high - 0xD800) * 0x400 + (low - 0xDC00)) :: lenientUtf16 rest
      else replacement :: lenientUtf16 (some low :: rest)
    else if 0xDC00 ≤ high && high < 0xE000 then replacement :: lenientUtf16 (some low :: rest)
    else Char.ofNat high :: lenientUtf16 (some low :: rest)
  | some unit :: rest =>
    (if 0xD800 ≤ unit && unit < 0xE000 then replacement else Char.ofNat unit) :: lenientUtf16 rest

/-- The characters of the bytes 0x80 to 0x9F in the encoding windows-1252. -/
def windows1252High : List Nat :=
  [0x20AC, 0x81, 0x201A, 0x192, 0x201E, 0x2026, 0x2020, 0x2021, 0x2C6, 0x2030, 0x160, 0x2039,
   0x152, 0x8D, 0x17D, 0x8F, 0x90, 0x2018, 0x2019, 0x201C, 0x201D, 0x2022, 0x2013, 0x2014,
   0x2DC, 0x2122, 0x161, 0x203A, 0x153, 0x9D, 0x17E, 0x178]

/-- The character of one byte in the encoding windows-1252. -/
def windows1252 (b : UInt8) : Char :=
  if 0x80 ≤ b.toNat && b.toNat < 0xA0 then
    Char.ofNat ((windows1252High[b.toNat - 0x80]?).getD b.toNat)
  else Char.ofNat b.toNat

/-- The encodings a body is read in. -/
inductive Encoding where
  | utf8
  | utf16 (bigEndian : Bool)
  | windows1252
  deriving DecidableEq

/-- The encoding a charset label names, of those read here. The labels of other encodings, such as
those of East Asia, are not known, so a body under one of them is read as UTF-8. -/
def Encoding.ofLabel? (label : String) : Option Encoding :=
  let name := lowerAscii (trim label)
  if ["utf-8", "utf8", "unicode-1-1-utf-8", "unicode11utf8", "unicode20utf8",
      "x-unicode20utf8"].contains name then some .utf8
  else if ["utf-16", "utf-16le", "csunicode", "iso-10646-ucs-2", "ucs-2", "unicode",
      "unicodefeff"].contains name then some (.utf16 false)
  else if ["utf-16be", "unicodefffe"].contains name then some (.utf16 true)
  else if ["ascii", "us-ascii", "ansi_x3.4-1968", "cp1252", "cp819", "csisolatin1", "ibm819",
      "iso-8859-1", "iso-ir-100", "iso8859-1", "iso88591", "iso_8859-1", "iso_8859-1:1987", "l1",
      "latin1", "windows-1252", "x-cp1252"].contains name then some .windows1252
  else none

/-- The value of the `charset` parameter of a content type, without the quotes around it. Whether
the rest of the content type is well formed is not looked at: a parameter counts in one that is not
a media type as well. -/
def charset? (contentType : String) : Option String :=
  ((splitAtChar ';' contentType).drop 1).findSome? fun parameter =>
    match splitChars '=' (trimChars parameter.toList) with
    | name :: value :: _ =>
      if lowerAscii (trim (String.ofList name)) = "charset" then
        some (String.ofList ((trimChars value).filter (· ≠ '"')))
      else none
    | _ => none

/-- Reads a whole body: a byte order mark decides the encoding, else the content type, else
UTF-8. -/
def bodyText (contentType : Option String) (bytes : List UInt8) : String :=
  let read : Encoding → List UInt8 → List Char
    | .utf8, bs => lenientUtf8 bs
    | .utf16 big, bs => lenientUtf16 (units16 big bs)
    | .windows1252, bs => bs.map windows1252
  String.ofList <| match bytes with
    | 0xEF :: 0xBB :: 0xBF :: rest => read .utf8 rest
    | 0xFF :: 0xFE :: rest => read (.utf16 false) rest
    | 0xFE :: 0xFF :: rest => read (.utf16 true) rest
    | _ => read (((contentType.bind charset?).bind Encoding.ofLabel?).getD .utf8) bytes

end GatewayProbe.Text
