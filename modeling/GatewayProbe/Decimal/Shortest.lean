/-
The shortest decimal text of a double.

Of all decimals that read back as a given double, the one with the fewest digits is printed, and of
those the nearest. The search goes through the decimal grids of 1, 2, … 17 digits: if a point of a
grid reads back at all, one of the two neighbours of the exact value on that grid does.

* `shortestDigits` — the digits and the power of ten of the last one;
* `shortest` — positional up to sixteen digits before the point and four zeros after it, and with
  an exponent otherwise; a whole number keeps `.0`.
-/
import GatewayProbe.Decimal.Exact

namespace GatewayProbe.Decimal

/-- The numbers that read back as `mantissa · 2 ^ exponent`, in units of `2 ^ (exponent - 2)`. The
ends belong to the interval exactly when the mantissa is even. -/
structure Interval where
  low : Nat
  value : Nat
  high : Nat
  closed : Bool
  exponent : Int

/-- The interval of a positive double. Below a power of two the next double is half as far. -/
def Interval.of (mantissa : Nat) (exponent : Int) : Interval where
  low := 4 * mantissa - (if mantissa = hidden ∧ exponent > -1074 then 1 else 2)
  value := 4 * mantissa
  high := 4 * mantissa + 2
  closed := mantissa % 2 = 0
  exponent := exponent - 2

/-- Factors `(a, b)` with `c · 10 ^ power` compared to `x · 2 ^ exponent` as `c · a` to `x · b`. -/
def scales (power exponent : Int) : Nat × Nat :=
  (Nat.pow 10 power.toNat * Nat.pow 2 (-exponent).toNat,
   Nat.pow 2 exponent.toNat * Nat.pow 10 (-power).toNat)

/-- The multiple of `10 ^ power` to print for the interval, if a neighbour of its value fits. -/
def Interval.onGrid? (i : Interval) (power : Int) : Option Nat :=
  let (a, b) := scales power i.exponent
  let below := i.value * b / a
  let fits (c : Nat) : Bool :=
    if i.closed then i.low * b ≤ c * a && c * a ≤ i.high * b
    else i.low * b < c * a && c * a < i.high * b
  let nearest := roundHalfEven (i.value * b) a
  if fits nearest && nearest ≠ 0 then some nearest
  else if fits below && below ≠ 0 then some below
  else if fits (below + 1) then some (below + 1)
  else none

/-- The least `p` with `mantissa · 2 ^ exponent < 10 ^ p`, for a positive mantissa. -/
def magnitude (mantissa : Nat) (exponent : Int) : Int :=
  let top : Nat := mantissa * Nat.pow 2 exponent.toNat
  let bottom : Nat := Nat.pow 2 (-exponent).toNat
  let guess : Int := Int.ofNat (digits top).length - Int.ofNat (digits bottom).length
  if top * Nat.pow 10 (-guess).toNat < bottom * Nat.pow 10 guess.toNat then guess else guess + 1

/-- Digits and power of ten of the shortest decimal that reads back as a positive double. -/
def shortestDigits (mantissa : Nat) (exponent : Int) : Nat × Int :=
  let interval := Interval.of mantissa exponent
  let p := magnitude mantissa exponent
  let found := (List.range 17).findSome? fun k =>
    let power := p - Int.ofNat (k + 1)
    (interval.onGrid? power).map fun c => (c, power)
  found.getD (mantissa, exponent)

/-- Drops the zeros at the end of a number, counting them. -/
def dropZeros : Nat → Nat → Int → Nat × Int
  | 0, n, power => (n, power)
  | fuel + 1, n, power =>
    if n % 10 = 0 ∧ n ≠ 0 then dropZeros fuel (n / 10) (power + 1) else (n, power)

/-- The text of `n · 10 ^ power`: where the point stands decides between the three forms. -/
def scientific (n : Nat) (power : Int) : List Char :=
  let ds := digits n
  let point : Int := Int.ofNat ds.length + power
  if 0 ≤ power ∧ point ≤ 16 then ds ++ List.replicate power.toNat '0' ++ ['.', '0']
  else if 0 < point ∧ point ≤ 16 then ds.take point.toNat ++ '.' :: ds.drop point.toNat
  else if -5 < point ∧ point ≤ 0 then
    '0' :: '.' :: (List.replicate (-point).toNat '0' ++ ds)
  else
    let exponent := point - 1
    let sign := if exponent < 0 then ['-'] else []
    ds.take 1 ++ (if ds.length = 1 then [] else '.' :: ds.drop 1) ++
      'e' :: (sign ++ digits exponent.natAbs)

/-- The shortest text that reads back as the finite double `x`. Infinities and NaN have none and
are written as words. -/
def shortest (x : Float) : String :=
  match Exact.ofFloat x with
  | .nan => "NaN"
  | .infinite negative => if negative then "-inf" else "inf"
  | .finite negative mantissa exponent =>
    let text := if mantissa = 0 then ['0', '.', '0'] else
      let (n, power) := shortestDigits mantissa exponent
      let (n, power) := dropZeros 20 n power
      scientific n power
    String.ofList (if negative then '-' :: text else text)

end GatewayProbe.Decimal
