import Compliance.Rounding
import Compliance.Text.Digits

/-!
# Compliance.Binary64

Binary floating-point numbers of sixty-four bits, as exact dyadic fractions.

* `Binary64`             — a sign, and the magnitude `mantissa * 2 ^ exponent`.
* `Binary64.nearest?`    — the number nearest to a decimal fraction, ties to the even mantissa.
* `Binary64.ofParts?`    — a number made of digits and an exponent of ten, by rounding twice.
* `Binary64.shortest`    — the shortest decimal fraction whose nearest number this is.
* `Binary64.text`        — that fraction, written plainly or in scientific notation.
-/

namespace Compliance

/-- The number `mantissa * 2 ^ exponent` with a sign. A number built by `ofRatio?` has a mantissa
below `2 ^ 53`, of exactly fifty-three bits unless the exponent is the least one. -/
structure Binary64 where
  negative : Bool
  mantissa : Nat
  exponent : Int
  deriving DecidableEq

namespace Binary64

def minExponent : Int := -1074

def maxExponent : Int := 971

def zero (negative : Bool) : Binary64 := ⟨negative, 0, minExponent⟩

/-- `n / d * 2 ^ (-q)` as a quotient of natural numbers. -/
def scaled (n d : Nat) (q : Int) : Nat × Nat :=
  if q < 0 then (n * pow2 q.natAbs, d) else (n, d * pow2 q.natAbs)

/-- The exponent at which the integer part of `n / d * 2 ^ (-q)` has fifty-three bits, but no
less than the least exponent. -/
def exponentOf (n d : Nat) : Int :=
  let q : Int := (n.log2 : Int) - (d.log2 : Int) - 52
  let (a, b) := scaled n d q
  let q := if a / b < pow2 52 then q - 1 else q
  if q < minExponent then minExponent else q

/-- The number nearest to `n / d`; none where that is too large. -/
def ofRatio? (negative : Bool) (n d : Nat) : Option Binary64 :=
  if n == 0 then some (zero negative)
  else
    let q := exponentOf n d
    let (a, b) := scaled n d q
    let m := divHalfEven a b
    let (m, q) := if m == pow2 53 then (pow2 52, q + 1) else (m, q)
    if maxExponent < q then none else some ⟨negative, m, q⟩

/-- The number nearest to `digits * 10 ^ exponent`; none where that is too large. Exponents far
outside the range are settled by the number of digits alone. -/
def nearest? (negative : Bool) (digits : Nat) (exponent : Int) : Option Binary64 :=
  let places : Int := (Text.digits digits).length
  if digits == 0 || exponent + places < -330 then some (zero negative)
  else if 310 < exponent + places then none
  else if exponent < 0 then ofRatio? negative digits (pow10 exponent.natAbs)
  else ofRatio? negative (digits * pow10 exponent.natAbs) 1

/-! ## Scaling

A number can be made of its digits more quickly: they are rounded first, and then multiplied or
divided by a power of ten, each of which is rounded by itself. The result is not always the nearest
number. -/

/-- The magnitude of a number as a quotient of natural numbers. -/
def ratio (x : Binary64) : Nat × Nat :=
  if x.exponent < 0 then (x.mantissa, pow2 x.exponent.natAbs)
  else (x.mantissa * pow2 x.exponent.natAbs, 1)

/-- The number nearest to a product of magnitudes, with the sign of the first. -/
def times? (x y : Binary64) : Option Binary64 :=
  ofRatio? x.negative (x.ratio.1 * y.ratio.1) (x.ratio.2 * y.ratio.2)

/-- The number nearest to a quotient of magnitudes, with the sign of the first. -/
def over? (x y : Binary64) : Option Binary64 :=
  ofRatio? x.negative (x.ratio.1 * y.ratio.2) (x.ratio.2 * y.ratio.1)

/-- The greatest exponent of a power of ten that is in range. -/
def maxTenPower : Nat := 308

def tenPower? (k : Nat) : Option Binary64 := ofRatio? false (pow10 k) 1

/-- The number times `10 ^ exponent`, by powers of ten in range; none where it becomes too large. -/
def scaleTen? (x : Binary64) (exponent : Int) : Option Binary64 :=
  if exponent.natAbs ≤ maxTenPower then do
    let p ← tenPower? exponent.natAbs
    if exponent < 0 then x.over? p else x.times? p
  else if x.mantissa == 0 then some x
  else if 0 ≤ exponent then none
  else do
    let y ← x.over? (← tenPower? maxTenPower)
    y.scaleTen? (exponent + maxTenPower)
termination_by exponent.natAbs
decreasing_by
  simp only [maxTenPower] at *
  omega

/-- A number with the given digits and exponent of ten: the digits are rounded before they are
scaled. -/
def ofParts? (negative : Bool) (digits : Nat) (exponent : Int) : Option Binary64 := do
  (← ofRatio? negative digits 1).scaleTen? exponent

/-! ## Shortest decimal fraction -/

/-- The reals that round to a number, in units of a quarter of its last place: the number itself
and the ends of the interval, which belong to it exactly when the mantissa is even. -/
structure Interval where
  low : Nat
  value : Nat
  high : Nat
  closed : Bool

def interval (x : Binary64) : Interval :=
  let low :=
    if x.mantissa == pow2 52 && minExponent < x.exponent then 4 * x.mantissa - 1
    else 4 * x.mantissa - 2
  ⟨low, 4 * x.mantissa, 4 * x.mantissa + 2, x.mantissa % 2 == 0⟩

/-- Does `t * step` lie in the interval, where the interval is measured in units of `unit`? -/
def Interval.holds (i : Interval) (unit step t : Nat) : Bool :=
  let x := t * step
  (i.low * unit < x && x < i.high * unit) ||
    (i.closed && (x == i.low * unit || x == i.high * unit))

/-- The multiple of `10 ^ p` in the interval that is nearest to the number, if there is one. -/
def Interval.multiple? (i : Interval) (exponent p : Int) : Option Nat :=
  let q := exponent - 2
  let unit := (if q < 0 then 1 else pow2 q.natAbs) * (if p < 0 then pow10 p.natAbs else 1)
  let step := (if q < 0 then pow2 q.natAbs else 1) * (if p < 0 then 1 else pow10 p.natAbs)
  let below := i.value * unit / step
  let nearest := divHalfEven (i.value * unit) step
  let other := if nearest == below then below + 1 else below
  if i.holds unit step nearest then some nearest
  else if i.holds unit step other then some other
  else none

/-- The first power of ten, from `10 ^ p` downwards, that has a multiple in the interval. -/
def Interval.search (i : Interval) (exponent p : Int) : Nat → Nat × Int
  | 0 => (0, 0)
  | fuel + 1 =>
    match i.multiple? exponent p with
    | some t => (t, p)
    | none => i.search exponent (p - 1) fuel

/-- An exponent of ten whose power is at least the magnitude, and less than a thousand times it. -/
def decimalExponent (x : Binary64) : Int :=
  if x.exponent < 0 then
    let d := pow2 x.exponent.natAbs
    if x.mantissa < d then 1 - ((Text.digits (d / x.mantissa)).length : Int)
    else (Text.digits (x.mantissa / d)).length
  else (Text.digits (x.mantissa * pow2 x.exponent.natAbs)).length

/-- The shortest decimal fraction `t * 10 ^ p` whose nearest number is the magnitude of `x`. -/
def shortest (x : Binary64) : Nat × Int :=
  if x.mantissa == 0 then (0, 0)
  else x.interval.search x.exponent x.decimalExponent 24

/-! ## Text -/

/-- The digits `ds` with the point so that they denote `0.ds * 10 ^ point`. -/
def plainText (ds : List Char) (point : Int) : List Char :=
  if point ≤ 0 then '0' :: '.' :: (List.replicate point.natAbs '0' ++ ds)
  else if point.natAbs < ds.length then ds.take point.natAbs ++ '.' :: ds.drop point.natAbs
  else ds ++ List.replicate (point.natAbs - ds.length) '0' ++ ['.', '0']

/-- One digit in front of the point, and an exponent with its sign. -/
def scientificText (ds : List Char) (exponent : Int) : List Char :=
  let mantissa := match ds with
    | [] => []
    | [d] => [d]
    | d :: rest => d :: '.' :: rest
  mantissa ++ 'e' :: (if exponent < 0 then '-' else '+') :: Text.digits exponent.natAbs

/-- The magnitudes from `10 ^ (-5)` up to `10 ^ 16` are written plainly, with at least one place;
all others in scientific notation. -/
def magnitudeText (x : Binary64) : List Char :=
  let (t, p) := x.shortest
  if t == 0 then ['0', '.', '0']
  else
    let ds := Text.digits t
    let exponent : Int := (ds.length : Int) + p - 1
    if -5 ≤ exponent && exponent < 16 then plainText ds (exponent + 1)
    else scientificText ds exponent

/-- The shortest decimal fraction in plain notation, without places where it has none. -/
def writtenOut (x : Binary64) : List Char :=
  let (t, p) := x.shortest
  let ds := Text.digits t
  let magnitude :=
    if 0 ≤ p then ds ++ List.replicate (if t == 0 then 0 else p.natAbs) '0'
    else plainText ds ((ds.length : Int) + p)
  if x.negative then '-' :: magnitude else magnitude

def text (x : Binary64) : String :=
  String.ofList (if x.negative then '-' :: x.magnitudeText else x.magnitudeText)

end Binary64

end Compliance
