/-
JSON numerals and the numbers they stand for.

A numeral without fraction and exponent is a whole number if it fits a machine word: 64 unsigned
bits, or 64 signed bits after a minus sign. Any other numeral is a double, and reading it is fast
rather than exact: the digits that fit a word are taken as they are, later digits only move the
point, and the word is then multiplied or divided once by a power of ten. The result may differ
from the nearest double in the last bit. Minus zero is a double too.

* `Numeral.read` — the longest numeral at the front of a text;
* `Numeral.number?` — the number, unless its double would be infinite;
* `Numeral.natural?` — the whole number, if it is one below a bound.
-/
import GatewayProbe.Decimal.Read
import GatewayProbe.Json.Basic

namespace GatewayProbe

/-- The parts of a numeral as they are written. -/
structure Numeral where
  negative : Bool
  whole : List Char
  /-- The digits after the point, if there is one. -/
  fraction : Option (List Char)
  /-- The sign and the digits after the exponent mark, if there is one. -/
  power : Option (Bool × List Char)

namespace Numeral

/-- Splits the digits from the front of a text; there must be at least one. -/
def someDigits (cs : List Char) : Option (List Char × List Char) :=
  let ds := cs.takeWhile Char.isDigit
  if ds.isEmpty then none else some (ds, cs.dropWhile Char.isDigit)

/-- Splits the whole part from the front of a text: a zero stands alone. -/
def readWhole : List Char → Option (List Char × List Char)
  | '0' :: cs => some (['0'], cs)
  | cs => someDigits cs

/-- Splits a point and the digits after it from the front of a text, if there is a point. -/
def readFraction : List Char → Option (Option (List Char) × List Char)
  | '.' :: cs => (someDigits cs).map fun (ds, rest) => (some ds, rest)
  | cs => some (none, cs)

/-- Splits an exponent from the front of a text, if there is a mark. -/
def readPower : List Char → Option (Option (Bool × List Char) × List Char)
  | [] => some (none, [])
  | c :: cs =>
    if c = 'e' ∨ c = 'E' then
      let (negative, rest) := Decimal.splitSign cs
      (someDigits rest).map fun (ds, rest) => (some (negative, ds), rest)
    else some (none, c :: cs)

/-- Splits a numeral from the front of a text. -/
def read (cs : List Char) : Option (Numeral × List Char) := do
  let (negative, cs) := match cs with
    | '-' :: rest => (true, rest)
    | cs => (false, cs)
  let (whole, cs) ← readWhole cs
  let (fraction, cs) ← readFraction cs
  let (power, cs) ← readPower cs
  return (⟨negative, whole, fraction, power⟩, cs)

/-- Appends digits to a number as long as it stays below 2 ^ 64. Gives the number and how many
digits were taken. -/
def absorb : Nat → List Char → Nat × Nat
  | n, [] => (n, 0)
  | n, d :: ds =>
    let next := n * 10 + (d.toNat - '0'.toNat)
    if next < Decimal.word64 then
      let (m, taken) := absorb next ds
      (m, taken + 1)
    else (n, 0)

/-- The double `x · 10 ^ power`, computed with one power of ten up to 10 ^ 308 at a time. Fails
where the result would be infinite. -/
def shiftPoint : Nat → Float → Int → Option Float
  | 0, x, _ => some x
  | fuel + 1, x, power =>
    if power.natAbs ≤ 308 then
      let scale := Float.ofScientific 1 false power.natAbs
      if power < 0 then some (x / scale)
      else if (x * scale).isInf then none else some (x * scale)
    else if x == 0 then some x
    else if power ≥ 0 then none
    else shiftPoint fuel (x / Float.ofScientific 1 false 308) (power + 308)

/-- The exponent a numeral writes. -/
def writtenPower (n : Numeral) : Int :=
  match n.power with
  | none => 0
  | some (negative, ds) =>
    let size : Int := Decimal.ofDigits ds
    if negative then -size else size

/-- The double a numeral stands for. -/
def double? (n : Numeral) : Option Float :=
  let (head, taken) := absorb 0 n.whole
  let moved : Int := Int.ofNat (n.whole.length - taken)
  let (head, after) := absorb head (n.fraction.getD [])
  let size := shiftPoint 6 (UInt64.ofNat head).toFloat (moved - Int.ofNat after + n.writtenPower)
  size.map fun x => if n.negative then -x else x

/-- A numeral has neither fraction nor exponent. -/
def isWhole (n : Numeral) : Bool := n.fraction.isNone && n.power.isNone

/-- The number a numeral stands for, unless it is too large for a double. -/
def number? (n : Numeral) : Option Number :=
  let size := Decimal.ofDigits n.whole
  if n.isWhole && !n.negative && size < Decimal.word64 then some (.whole size)
  else if n.isWhole && n.negative && 0 < size && size ≤ Decimal.signed64 then
    some (.whole (-size))
  else n.double?.map .double

/-- The whole number a numeral writes, if it is one below `bound`. -/
def natural? (bound : Nat) (n : Numeral) : Option Nat :=
  if n.isWhole && !n.negative && Decimal.ofDigits n.whole < bound then
    some (Decimal.ofDigits n.whole)
  else none

end Numeral
end GatewayProbe
