/-
Doubles with a fixed number of decimal places.

Durations, rates and percentages are printed with two, three, one or no places. The exact value is
rounded once, a half going to the even neighbour, and the sign is kept also when everything after
it rounds to zero: a small negative number prints `-0.00`.
-/
import GatewayProbe.Decimal.Exact

namespace GatewayProbe.Decimal

/-- The value `mantissa · 2 ^ exponent` in units of `10 ^ -places`, rounded half to even. -/
def scaled (places mantissa : Nat) (exponent : Int) : Nat :=
  let units := mantissa * Nat.pow 10 places
  if exponent < 0 then roundHalfEven units (Nat.pow 2 exponent.natAbs)
  else units * Nat.pow 2 exponent.natAbs

/-- The text of a count of units of `10 ^ -places`. -/
def placed (places units : Nat) : List Char :=
  let whole := digits (units / Nat.pow 10 places)
  if places = 0 then whole else whole ++ '.' :: padded places (units % Nat.pow 10 places)

/-- A double with exactly `places` digits after the point. -/
def fixed (places : Nat) (x : Float) : String :=
  match Exact.ofFloat x with
  | .nan => "NaN"
  | .infinite negative => if negative then "-inf" else "inf"
  | .finite negative mantissa exponent =>
    let text := placed places (scaled places mantissa exponent)
    String.ofList (if negative then '-' :: text else text)

end GatewayProbe.Decimal
