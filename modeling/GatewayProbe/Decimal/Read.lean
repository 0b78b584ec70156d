/-
Reading decimals as doubles.

* `nearest` — the double nearest to `± digits · 10 ^ power`, ties to the even mantissa;
* `float?` — a text such as `-1.5e3`, `.5`, `5.`, `inf` or `nan`, as a double;
* `natural?` — a text of digits, with at most one plus sign before them, below a bound.
-/
import GatewayProbe.Decimal.Exact
import GatewayProbe.Text.Ascii

namespace GatewayProbe.Decimal

/-- The number written by a list of decimal digits. -/
def ofDigits (ds : List Char) : Nat :=
  ds.foldl (fun n d => n * 10 + (d.toNat - '0'.toNat)) 0

/-- The double nearest to `± digits · 10 ^ power`. Beyond 310 places before the point every number
is infinite, and beyond 400 after it every number is zero. -/
def nearest (negative : Bool) (n : Nat) (power : Int) : Float :=
  let size := Int.ofNat (digits n).length + power
  let positive : Float :=
    if n = 0 ∨ size < -400 then 0
    else if size > 310 then 1.0 / 0.0
    else if power < 0 then Float.ofScientific n true power.natAbs
    else Float.ofScientific n false power.natAbs
  if negative then -positive else positive

/-- Splits an optional sign from the front. -/
def splitSign : List Char → Bool × List Char
  | '-' :: cs => (true, cs)
  | '+' :: cs => (false, cs)
  | cs => (false, cs)

/-- The power of ten after the mark `e`, where it must fill the whole text. -/
def exponent? : List Char → Option Int
  | [] => some 0
  | c :: cs =>
    if c = 'e' ∨ c = 'E' then
      let (negative, ds) := splitSign cs
      if ds.isEmpty || !ds.all Char.isDigit then none
      else
        -- Past a million the exponent no longer matters.
        let size : Int := if ds.length > 7 ∧ ofDigits ds > 1000000 then 1000000 else ofDigits ds
        some (if negative then -size else size)
    else none

/-- Reads a decimal text as the nearest double. -/
def float? (s : String) : Option Float :=
  let (negative, cs) := splitSign s.toList
  let word := Text.lowerAscii (String.ofList cs)
  if word = "inf" ∨ word = "infinity" then some (if negative then -(1.0 / 0.0) else 1.0 / 0.0)
  else if word = "nan" then some (0.0 / 0.0)
  else
    let whole := cs.takeWhile Char.isDigit
    let (fraction, rest) : List Char × List Char := match cs.dropWhile Char.isDigit with
      | '.' :: r => (r.takeWhile Char.isDigit, r.dropWhile Char.isDigit)
      | r => ([], r)
    if whole.isEmpty && fraction.isEmpty then none
    else (exponent? rest).map fun power =>
      nearest negative (ofDigits (whole ++ fraction)) (power - Int.ofNat fraction.length)

/-- Reads a text of decimal digits, with at most one plus sign before them, as a number below
`bound`. -/
def natural? (bound : Nat) (s : String) : Option Nat :=
  let ds := match s.toList with
    | '+' :: cs => cs
    | cs => cs
  if ds.isEmpty || !ds.all Char.isDigit then none
  else if ofDigits ds < bound then some (ofDigits ds) else none

end GatewayProbe.Decimal
