/-
Bounds of machine words.

* `word32`, `word64` — the first numbers that do not fit 32 and 64 bits;
* `signed64` — the first that does not fit 64 bits with a sign; its negative still does;
* `hidden` — the mantissa with which the doubles of each exponent begin.
-/

namespace GatewayProbe.Decimal

/-- The bound of 32-bit numbers, 2 to the power 32. -/
def word32 : Nat := 0x100000000

/-- The bound of 64-bit numbers, 2 to the power 64. -/
def word64 : Nat := 0x10000000000000000

/-- The bound of 64-bit numbers with a sign, 2 to the power 63. -/
def signed64 : Nat := 0x8000000000000000

/-- The least mantissa of 53 bits, 2 to the power 52. -/
def hidden : Nat := 0x10000000000000

/-- A whole number fits 64 bits with a sign. -/
def isSigned64 (n : Int) : Bool := -Int.ofNat signed64 ≤ n && n < Int.ofNat signed64

end GatewayProbe.Decimal
