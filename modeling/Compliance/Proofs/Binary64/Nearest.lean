import Compliance.Binary64
import Compliance.Proofs.Decimal.Value
import Compliance.Proofs.Rounding
import Compliance.Proofs.Text.Digits
import Mathlib.Algebra.Order.Field.Power
import Mathlib.Tactic.Ring

/-!
# Compliance.Proofs.Binary64.Nearest

The double that a quotient of natural numbers is rounded to.

* `Binary64.IsNormal`        — fifty-three bits of mantissa, and an exponent above the least one.
* `Binary64.Covers`          — a number is one of those that round to a double.
* `Binary64.exponentOf_spec` — the exponent that leaves fifty-three bits in front of the point.
* `Binary64.ofRatio?_spec`   — a quotient is rounded to a normal double that covers it.
-/

namespace Compliance

theorem cast_pow2 (k : ℕ) : ((pow2 k : ℕ) : ℚ) = 2 ^ k := by
  rw [pow2]
  exact_mod_cast rfl

theorem pow2_pos (k : ℕ) : 0 < pow2 k := Nat.pow_pos (by decide)

/-- A power as a fraction of natural numbers. -/
theorem zpow_eq_div (b : ℕ) (k : ℤ) :
    (b : ℚ) ^ k = (if k < 0 then 1 else b ^ k.natAbs : ℕ) /
      (if k < 0 then b ^ k.natAbs else 1 : ℕ) := by
  split
  · rename_i hk
    have habs : k = -(k.natAbs : ℤ) := by omega
    rw [Nat.cast_one, one_div, Nat.cast_pow, ← zpow_natCast, ← zpow_neg, ← habs]
  · rename_i hk
    have habs : k = (k.natAbs : ℤ) := by omega
    rw [Nat.cast_one, div_one, Nat.cast_pow, ← zpow_natCast, ← habs]

/-- The rounded quotient is one of the two numbers next to it. -/
theorem divHalfEven_eq (n d : ℕ) : divHalfEven n d = n / d ∨ divHalfEven n d = n / d + 1 := by
  simp only [divHalfEven]
  split
  · exact .inl rfl
  · exact .inr rfl

namespace Binary64

/-! ## Normal doubles and what they cover -/

/-- The mantissa has fifty-three bits, so that it stands for as many bits of the number. -/
structure IsNormal (x : Binary64) : Prop where
  le_mantissa : 2 ^ 52 ≤ x.mantissa
  mantissa_lt : x.mantissa < 2 ^ 53
  lt_exponent : minExponent < x.exponent

/-- A quarter of the last place of the mantissa. -/
def quarter (x : Binary64) : ℚ := 2 ^ (x.exponent - 2)

theorem quarter_pos (x : Binary64) : 0 < x.quarter := by
  rw [quarter]
  positivity

/-- The number lies in the interval, whose ends count if it is closed. -/
def Interval.Has (i : Interval) (y : ℚ) : Prop :=
  (i.low < y ∧ y < i.high) ∨ (i.closed = true ∧ (y = i.low ∨ y = i.high))

/-- The magnitude `y` is one of those for which `x` is the nearest double. -/
def Covers (x : Binary64) (y : ℚ) : Prop := x.interval.Has (y / x.quarter)

/-! ## The exponent -/

theorem scaled_pos (n : ℕ) {d : ℕ} (hd : 0 < d) (q : ℤ) : 0 < (scaled n d q).2 := by
  rw [scaled]
  split
  · exact hd
  · exact Nat.mul_pos hd (pow2_pos _)

theorem scaled_ratio (n d : ℕ) (q : ℤ) :
    ((scaled n d q).1 : ℚ) / (scaled n d q).2 = n / d / 2 ^ q := by
  have htwo : (2 : ℚ) ^ q = (if q < 0 then 1 else pow2 q.natAbs : ℕ) /
      (if q < 0 then pow2 q.natAbs else 1 : ℕ) := zpow_eq_div 2 q
  rw [htwo, scaled]
  split
  · rw [Nat.cast_one, one_div, div_inv_eq_mul, Nat.cast_mul, div_mul_eq_mul_div]
  · rw [Nat.cast_one, div_one, Nat.cast_mul, div_div]

theorem le_log2 {n : ℕ} (hn : 0 < n) : (2 : ℚ) ^ n.log2 ≤ n := by
  exact_mod_cast Nat.log2_self_le hn.ne'

theorem lt_log2 (n : ℕ) : (n : ℚ) < 2 ^ (n.log2 + 1) := by
  exact_mod_cast Nat.lt_log2_self

/-- Numbers of `a` and `b` bits have a quotient of `a - b` bits, or one bit less. -/
theorem ratio_bounds {n d : ℕ} (hn : 0 < n) (hd : 0 < d) :
    (2 : ℚ) ^ ((n.log2 : ℤ) - d.log2 - 1) < n / d ∧
      (n : ℚ) / d < 2 ^ ((n.log2 : ℤ) - d.log2 + 1) := by
  have hdpos : (0 : ℚ) < d := by exact_mod_cast hd
  have hlow := le_log2 hn
  have hhigh := lt_log2 n
  have hdlow := le_log2 hd
  have hdhigh := lt_log2 d
  have hpow : ∀ k : ℕ, (0 : ℚ) < 2 ^ k := fun k => by positivity
  have htwo : (2 : ℚ) ≠ 0 := two_ne_zero
  constructor
  · rw [lt_div_iff₀ hdpos, sub_sub, zpow_sub₀ htwo, div_mul_eq_mul_div, zpow_natCast,
      div_lt_iff₀ (by positivity), show ((d.log2 : ℤ) + 1) = (d.log2 + 1 : ℕ) by push_cast; rfl,
      zpow_natCast]
    exact mul_lt_mul' hlow hdhigh hdpos.le (lt_of_lt_of_le (hpow _) hlow)
  · rw [div_lt_iff₀ hdpos, sub_add_eq_add_sub, zpow_sub₀ htwo, div_mul_eq_mul_div, zpow_natCast,
      lt_div_iff₀ (by positivity), show ((n.log2 : ℤ) + 1) = (n.log2 + 1 : ℕ) by push_cast; rfl,
      zpow_natCast]
    exact mul_lt_mul hhigh hdlow (hpow _) (hpow _).le

/-- The first guess is right, or too large by one; the least exponent is far away. -/
theorem exponentOf_eq {n d : ℕ} (hd : 0 < d) (hlow : d.log2 < n.log2 + 1000) :
    exponentOf n d =
      if (n : ℚ) / d / 2 ^ ((n.log2 : ℤ) - d.log2 - 52) < 2 ^ 52 then (n.log2 : ℤ) - d.log2 - 52 - 1
      else (n.log2 : ℤ) - d.log2 - 52 := by
  have hbelow : (scaled n d (n.log2 - d.log2 - 52)).1 / (scaled n d (n.log2 - d.log2 - 52)).2 <
      pow2 52 ↔ (n : ℚ) / d / 2 ^ ((n.log2 : ℤ) - d.log2 - 52) < 2 ^ 52 := by
    rw [Nat.div_lt_iff_lt_mul (scaled_pos n hd _), ← scaled_ratio,
      div_lt_iff₀ (by exact_mod_cast scaled_pos n hd _), ← cast_pow2]
    exact_mod_cast Iff.rfl
  simp only [exponentOf, hbelow]
  rw [if_neg]
  simp only [minExponent]
  split <;> omega

/-- The quotient in units of the last place has fifty-three bits in front of the point. -/
theorem exponentOf_spec {n d : ℕ} (hn : 0 < n) (hd : 0 < d) (hlow : d.log2 < n.log2 + 1000) :
    (2 : ℚ) ^ 52 ≤ n / d / 2 ^ exponentOf n d ∧ (n : ℚ) / d / 2 ^ exponentOf n d < 2 ^ 53 ∧
      minExponent < exponentOf n d ∧ exponentOf n d ≤ n.log2 - d.log2 - 52 := by
  obtain ⟨hratio, hratio'⟩ := ratio_bounds hn hd
  rw [exponentOf_eq hd hlow]
  have hmin : minExponent < (n.log2 : ℤ) - d.log2 - 52 - 1 := by
    simp only [minExponent]
    omega
  generalize (n.log2 : ℤ) - d.log2 = q at *
  have hpow : ∀ k : ℤ, (0 : ℚ) < 2 ^ k := fun k => by positivity
  split
  · rename_i h
    refine ⟨?_, ?_, hmin, by omega⟩
    · have hq : (2 : ℚ) ^ 52 * 2 ^ (q - 52 - 1) = 2 ^ (q - 1) := by
        rw [← zpow_natCast, ← zpow_add₀ two_ne_zero]
        congr 1
        push_cast
        ring
      rw [le_div_iff₀ (hpow _), hq]
      exact hratio.le
    · rw [div_lt_iff₀ (hpow _)] at h ⊢
      rw [zpow_sub_one₀ two_ne_zero]
      linarith
  · rename_i h
    refine ⟨not_lt.1 h, ?_, by omega, le_rfl⟩
    have hq : (2 : ℚ) ^ 53 * 2 ^ (q - 52) = 2 ^ (q + 1) := by
      rw [← zpow_natCast, ← zpow_add₀ two_ne_zero]
      congr 1
      push_cast
      ring
    rw [div_lt_iff₀ (hpow _), hq]
    exact hratio'

/-! ## The interval -/

/-- The lower end of the interval. Below a power of two the doubles lie twice as close. -/
theorem IsNormal.interval_low {x : Binary64} (hx : x.IsNormal) :
    (x.interval.low : ℚ) = 4 * x.mantissa - if x.mantissa = 2 ^ 52 then 1 else 2 := by
  have hm := hx.le_mantissa
  simp only [interval, pow2, Nat.pow_eq, hx.lt_exponent, decide_true, Bool.and_true, beq_iff_eq]
  split
  · rw [Nat.cast_sub (by omega)]
    push_cast
    ring
  · rw [Nat.cast_sub (by omega)]
    push_cast
    ring

theorem interval_high (x : Binary64) : (x.interval.high : ℚ) = 4 * x.mantissa + 2 := by
  simp only [interval]
  push_cast
  ring

theorem interval_closed {x : Binary64} : x.interval.closed = true ↔ Even x.mantissa := by
  rw [Nat.even_iff]
  exact beq_iff_eq

/-! ## Rounding -/

theorem div_quarter (x : Binary64) (y : ℚ) : y / x.quarter = 4 * (y / 2 ^ x.exponent) := by
  rw [quarter, zpow_sub₀ two_ne_zero]
  field_simp
  norm_num

/-- The rounded quotient covers the number, unless it is a power of two that the number is below. -/
theorem covers_of_isHalfEven {x : Binary64} (hx : x.IsNormal) {y : ℚ}
    (h : IsHalfEven (y / 2 ^ x.exponent) x.mantissa) (hy : 2 ^ 52 ≤ y / 2 ^ x.exponent) :
    x.Covers y := by
  rw [Covers, Interval.Has, div_quarter, hx.interval_low, interval_high, interval_closed]
  generalize y / 2 ^ x.exponent = r at h hy
  have hle := h.le_add
  have hsub := h.sub_le
  rcases hle.eq_or_lt with heq | hlt
  · exact .inr ⟨h.even (.inl heq), .inr (by linarith)⟩
  · rcases hsub.eq_or_lt with heq | hlt'
    · refine .inr ⟨h.even (.inr heq.symm), .inl ?_⟩
      rw [if_neg]
      · linarith
      · intro hm
        rw [hm] at heq
        push_cast at heq
        linarith
    · refine .inl ⟨?_, by linarith⟩
      split
      · rename_i hm
        rw [hm]
        push_cast
        linarith
      · linarith

/-- A number that is rounded up to a power of two is covered by that power. -/
theorem covers_of_carry {x : Binary64} (hx : x.IsNormal) (hm : x.mantissa = 2 ^ 52) {y : ℚ}
    (h : IsHalfEven (y / 2 ^ (x.exponent - 1)) (2 ^ 53)) (hy : y / 2 ^ (x.exponent - 1) < 2 ^ 53) :
    x.Covers y := by
  rw [Covers, Interval.Has, div_quarter, hx.interval_low, interval_high, interval_closed, if_pos hm,
    hm]
  have hhalf : y / 2 ^ x.exponent = y / 2 ^ (x.exponent - 1) / 2 := by
    rw [zpow_sub_one₀ two_ne_zero]
    field_simp
  rw [hhalf]
  generalize y / 2 ^ (x.exponent - 1) = r at h hy
  have hsub := h.sub_le
  push_cast at hsub ⊢
  rcases hsub.eq_or_lt with heq | hlt
  · exact .inr ⟨by decide, .inl (by linarith)⟩
  · exact .inl ⟨by linarith, by linarith⟩

theorem ofRatio?_spec (negative : Bool) {n d : ℕ} (hn : 0 < n) (hd : 0 < d)
    (hlow : d.log2 < n.log2 + 1000) (hhigh : n.log2 < d.log2 + 1000) :
    ∃ x, ofRatio? negative n d = some x ∧ x.negative = negative ∧ x.IsNormal ∧
      x.Covers (n / d) := by
  obtain ⟨hmin, hmax, hexp, hexp'⟩ := exponentOf_spec hn hd hlow
  have hround := isHalfEven_divHalfEven (scaled n d (exponentOf n d)).1
    (scaled_pos n hd (exponentOf n d))
  rw [scaled_ratio] at hround
  have hfits : ¬ maxExponent < exponentOf n d := by
    simp only [maxExponent]
    omega
  have hfits' : ¬ maxExponent < exponentOf n d + 1 := by
    simp only [maxExponent]
    omega
  simp only [ofRatio?, beq_iff_eq, hn.ne', ↓reduceIte]
  generalize divHalfEven (scaled n d (exponentOf n d)).1 (scaled n d (exponentOf n d)).2 = m
    at hround ⊢
  have hlower : 2 ^ 52 ≤ m := (isHalfEven_natCast _).mono hround (by push_cast; exact hmin)
  have hupper : m ≤ 2 ^ 53 := hround.mono (isHalfEven_natCast _) (by push_cast; exact hmax.le)
  by_cases hm : m = pow2 53
  · have hnormal : IsNormal ⟨negative, 2 ^ 52, exponentOf n d + 1⟩ :=
      ⟨le_rfl, by norm_num, by simp only; omega⟩
    simp only [hm, ↓reduceIte, hfits']
    refine ⟨_, rfl, rfl, hnormal, covers_of_carry hnormal rfl ?_ ?_⟩
    · rw [add_sub_cancel_right, ← show m = 2 ^ 53 from hm]
      exact hround
    · rw [add_sub_cancel_right]
      exact hmax
  · have hlt : m < 2 ^ 53 := lt_of_le_of_ne hupper hm
    simp only [hm, ↓reduceIte, hfits]
    exact ⟨_, rfl, rfl, ⟨hlower, hlt, hexp⟩, covers_of_isHalfEven ⟨hlower, hlt, hexp⟩ hround hmin⟩

end Binary64

end Compliance
