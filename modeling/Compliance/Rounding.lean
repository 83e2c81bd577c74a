/-!
# Compliance.Rounding

Exact quotients of natural numbers, rounded.

* `pow10`, `pow2`  — powers of ten and of two.
* `divHalfEven`    — the nearest natural number to a quotient, a half to the even one.
-/

namespace Compliance

/-- The power of ten with exponent `k`. -/
def pow10 (k : Nat) : Nat := Nat.pow 10 k

/-- The power of two with exponent `k`. -/
def pow2 (k : Nat) : Nat := Nat.pow 2 k

/-- `n / d` rounded to the nearest natural number, a half to the even one. -/
def divHalfEven (n d : Nat) : Nat :=
  let q := n / d
  let twice := 2 * (n % d)
  if twice < d || (twice == d && q % 2 == 0) then q else q + 1

end Compliance
