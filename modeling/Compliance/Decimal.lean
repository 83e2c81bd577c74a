import Compliance.Rounding
import Compliance.Text.Digits

/-!
# Compliance.Decimal

Exact decimal numbers of bounded size: an integer mantissa of at most ninety-six bits, divided
by a power of ten of at most twenty-eight.

* `Decimal.ofParts?`  — the decimal with given parts, where they are in range.
* `Decimal.order`     — the order of the values; `==` compares values, not parts.
* `Decimal.normalize` — the same value without zeros at the end of its fraction.
* `Decimal.times?`    — the product, rounded half to even where it must lose places.
* `Decimal.text`      — the digits, as many after the point as the scale says.
-/

namespace Compliance

/-- The first natural number that needs more than ninety-six bits. -/
def Decimal.bound : Nat := 79228162514264337593543950336

/-- The greatest number of places after the point. -/
def Decimal.maxScale : Nat := 28

/-- The number `mantissa / 10 ^ scale`. -/
structure Decimal where
  mantissa : Int
  scale : Nat
  mantissa_lt : mantissa.natAbs < Decimal.bound
  scale_le : scale ≤ Decimal.maxScale
  deriving DecidableEq

namespace Decimal

def ofParts? (mantissa : Int) (scale : Nat) : Option Decimal :=
  if h : mantissa.natAbs < bound ∧ scale ≤ maxScale then some ⟨mantissa, scale, h.1, h.2⟩ else none

/-- The integer `z` with no places, where ninety-six bits hold it. -/
def ofInt? (z : Int) : Option Decimal := ofParts? z 0

def zero : Decimal := ⟨0, 0, by decide, by decide⟩

def one : Decimal := ⟨1, 0, by decide, by decide⟩

def million : Decimal := ⟨1000000, 0, by decide, by decide⟩

instance : Inhabited Decimal := ⟨zero⟩

/-! ## Order of the values -/

/-- Both values over the common denominator `10 ^ (a.scale + b.scale)`. -/
def crossed (a b : Decimal) : Int × Int :=
  (a.mantissa * (pow10 b.scale : Int), b.mantissa * (pow10 a.scale : Int))

def order (a b : Decimal) : Ordering :=
  let (x, y) := crossed a b
  if x < y then .lt else if x = y then .eq else .gt

/-- Two decimals are the same number when their values agree, whatever their scales. -/
def sameValue (a b : Decimal) : Bool :=
  let (x, y) := crossed a b
  x == y

instance : BEq Decimal := ⟨sameValue⟩

def isZero (d : Decimal) : Bool := d.mantissa == 0

/-! ## Normal form -/

/-- Divides by ten as long as the last digit is a zero after the point. -/
def stripZeros : Int → Nat → Int × Nat
  | m, 0 => (m, 0)
  | m, s + 1 => if m % 10 = 0 then stripZeros (m / 10) s else (m, s + 1)

theorem natAbs_stripZeros_le (m : Int) (s : Nat) : (stripZeros m s).1.natAbs ≤ m.natAbs := by
  induction s generalizing m with
  | zero => simp [stripZeros]
  | succ s ih =>
    simp only [stripZeros]
    split
    · have h := ih (m / 10)
      omega
    · simp

theorem stripZeros_scale_le (m : Int) (s : Nat) : (stripZeros m s).2 ≤ s := by
  induction s generalizing m with
  | zero => simp [stripZeros]
  | succ s ih =>
    simp only [stripZeros]
    split
    · have h := ih (m / 10)
      omega
    · simp

/-- The same value with the fewest places. -/
def normalize (d : Decimal) : Decimal :=
  let r := stripZeros d.mantissa d.scale
  ⟨r.1, r.2, Nat.lt_of_le_of_lt (natAbs_stripZeros_le _ _) d.mantissa_lt,
    Nat.le_trans (stripZeros_scale_le _ _) d.scale_le⟩

/-- The integer part, rounded toward zero. -/
def truncate (d : Decimal) : Int := d.mantissa.tdiv (pow10 d.scale)

/-! ## Product -/

/-- Removes as few places as needed, at least `k`, for the magnitude to fit; a decimal without
places left does not fit. The last argument bounds the search. -/
def fitMagnitude? (negative : Bool) (magnitude scale k : Nat) : Nat → Option Decimal
  | 0 => none
  | fuel + 1 =>
    if scale < k then none
    else
      let m : Int := divHalfEven magnitude (pow10 k)
      match ofParts? (if negative then -m else m) (scale - k) with
      | some d => some d
      | none => fitMagnitude? negative magnitude scale (k + 1) fuel

/-- The product, in as many places as fit; none where its integer part alone is too large. -/
def times? (a b : Decimal) : Option Decimal :=
  let product := a.mantissa * b.mantissa
  let scale := a.scale + b.scale
  if product == 0 then some zero
  else fitMagnitude? (product < 0) product.natAbs scale (scale - maxScale) (scale + 1)

/-! ## Text -/

/-- The digits of the magnitude, with a point in front of the last `scale` of them. -/
def digitText (d : Decimal) : List Char :=
  let ds := Text.padded (d.scale + 1) d.mantissa.natAbs
  let whole := ds.take (ds.length - d.scale)
  let places := ds.drop (ds.length - d.scale)
  if d.scale == 0 then whole else whole ++ '.' :: places

/-- The value in plain notation with exactly `scale` places. -/
def text (d : Decimal) : String :=
  String.ofList (if d.mantissa < 0 then '-' :: digitText d else digitText d)

end Decimal

end Compliance
