/-
The exact value of a double.

A finite double is a sign and a product `mantissa · 2 ^ exponent` of natural numbers. Every decimal
text of this library is computed from that product in natural numbers, so no rounding happens but
the one a format asks for.

* `Exact.ofFloat` — sign, mantissa and exponent of a double;
* `roundHalfEven` — the quotient of two natural numbers to the nearest, a tie to the even one.
-/
import GatewayProbe.Decimal.Word

namespace GatewayProbe.Decimal

/-- What a double stands for. -/
inductive Exact where
  | nan
  | infinite (negative : Bool)
  /-- The number `± mantissa · 2 ^ exponent`. -/
  | finite (negative : Bool) (mantissa : Nat) (exponent : Int)
  deriving DecidableEq, Repr

/-- Reads sign, exponent and fraction fields of a double. -/
def Exact.ofFloat (x : Float) : Exact :=
  let bits := x.toBits.toNat
  let negative := bits / signed64 = 1
  let field := bits / hidden % 2048
  let fraction := bits % hidden
  if field = 2047 then
    if fraction = 0 then .infinite negative else .nan
  else if field = 0 then .finite negative fraction (-1074)
  else .finite negative (fraction + hidden) (Int.ofNat field - 1075)

/-- The quotient `num / den` rounded to the nearest natural number, a tie to the even one. -/
def roundHalfEven (num den : Nat) : Nat :=
  let quotient := num / den
  let twice := 2 * (num % den)
  if twice > den || (twice = den && quotient % 2 = 1) then quotient + 1 else quotient

/-- The decimal digits of a natural number. -/
def digits (n : Nat) : List Char := Nat.toDigits 10 n

/-- A natural number in decimal, filled up with zeros on the left to at least `size` digits. -/
def padded (size n : Nat) : List Char :=
  List.replicate (size - (digits n).length) '0' ++ digits n

end GatewayProbe.Decimal
