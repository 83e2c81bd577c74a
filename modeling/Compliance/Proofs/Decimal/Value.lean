import Compliance.Decimal
import Mathlib.Algebra.Order.Field.Basic
import Mathlib.Algebra.Order.Field.Rat
import Mathlib.Tactic.FieldSimp
import Mathlib.Tactic.Linarith
import Mathlib.Tactic.Positivity
import Mathlib.Tactic.Ring

/-!
# Compliance.Proofs.Decimal.Value

The rational number that a decimal stands for.

* `Decimal.value`                    — that number.
* `Decimal.order_eq_compare`         — decimals have the order of their values.
* `Decimal.beq_iff`                  — and are equal if these are.
* `Decimal.value_normalize`          — the normal form has the same value.
* `Decimal.normalize_eq_of_value_eq` — and is the same for equal numbers.
-/

namespace Compliance.Decimal

/-- The number `mantissa / 10 ^ scale`. -/
def value (d : Decimal) : ℚ := d.mantissa / 10 ^ d.scale

theorem cast_pow10 (k : ℕ) : ((pow10 k : ℕ) : ℚ) = 10 ^ k := by
  rw [pow10]
  exact_mod_cast rfl

theorem abs_value (d : Decimal) : |d.value| = (d.mantissa.natAbs : ℕ) / (pow10 d.scale : ℕ) := by
  rw [value, abs_div, Nat.cast_natAbs, Int.cast_abs, cast_pow10,
    abs_of_pos (by positivity : (0 : ℚ) < 10 ^ d.scale)]

theorem value_lt_iff {a b : Decimal} : a.value < b.value ↔ (a.crossed b).1 < (a.crossed b).2 := by
  rw [value, value, div_lt_div_iff₀ (by positivity) (by positivity), ← cast_pow10, ← cast_pow10]
  exact_mod_cast Iff.rfl

theorem value_eq_iff {a b : Decimal} : a.value = b.value ↔ (a.crossed b).1 = (a.crossed b).2 := by
  rw [value, value, div_eq_div_iff (by positivity) (by positivity), ← cast_pow10, ← cast_pow10]
  exact_mod_cast Iff.rfl

theorem beq_iff {a b : Decimal} : (a == b) = true ↔ a.value = b.value := by
  have hbeq : (a == b) = ((a.crossed b).1 == (a.crossed b).2) := rfl
  rw [hbeq, beq_iff_eq, value_eq_iff]

theorem order_eq_compare (a b : Decimal) : a.order b = compare a.value b.value := by
  have horder : a.order b = if (a.crossed b).1 < (a.crossed b).2 then .lt
      else if (a.crossed b).1 = (a.crossed b).2 then .eq else .gt := rfl
  simp only [← value_lt_iff, ← value_eq_iff] at horder
  rw [horder]
  rcases lt_trichotomy a.value b.value with h | h | h
  · rw [if_pos h, compare_lt_iff_lt.2 h]
  · rw [if_neg h.not_lt, if_pos h, compare_eq_iff_eq.2 h]
  · rw [if_neg h.asymm, if_neg h.ne', compare_gt_iff_gt.2 h]

/-! ## Normal form -/

theorem stripZeros_value (m : ℤ) (s : ℕ) :
    ((stripZeros m s).1 : ℚ) / 10 ^ (stripZeros m s).2 = m / 10 ^ s := by
  induction s generalizing m with
  | zero => rfl
  | succ s ih =>
    rw [stripZeros]
    split
    · rename_i hzero
      have hm : ((10 * (m / 10) : ℤ) : ℚ) = m := by rw [Int.mul_ediv_cancel_of_emod_eq_zero hzero]
      rw [ih, ← hm, pow_succ]
      push_cast
      field_simp
    · rfl

@[simp] theorem value_normalize (d : Decimal) : d.normalize.value = d.value :=
  stripZeros_value d.mantissa d.scale

/-- A fraction whose last digit is not zero has the fewest places. -/
theorem places_le_of_div_eq {m n : ℤ} {s t : ℕ} (hn : n % 10 ≠ 0)
    (h : (n : ℚ) / 10 ^ t = m / 10 ^ s) : t ≤ s := by
  refine Nat.le_of_not_lt fun hlt => hn ?_
  obtain ⟨k, rfl⟩ := Nat.exists_eq_add_of_lt hlt
  rw [div_eq_div_iff (by positivity) (by positivity)] at h
  have hint : n * 10 ^ s = m * 10 ^ (s + k + 1) := by exact_mod_cast h
  have hten : n = 10 * (m * 10 ^ k) := by
    refine Int.eq_of_mul_eq_mul_right (by positivity : (10 : ℤ) ^ s ≠ 0) ?_
    rw [hint]
    ring
  rw [hten, Int.mul_emod_right]

theorem stripZeros_last (m : ℤ) (s : ℕ) :
    (stripZeros m s).2 = 0 ∨ (stripZeros m s).1 % 10 ≠ 0 := by
  induction s generalizing m with
  | zero => exact .inl rfl
  | succ s ih =>
    rw [stripZeros]
    split
    · exact ih _
    · rename_i h
      exact .inr h

theorem normalize_scale_le {d : Decimal} {m : ℤ} {s : ℕ} (h : d.value = m / 10 ^ s) :
    d.normalize.scale ≤ s := by
  rcases stripZeros_last d.mantissa d.scale with hzero | hlast
  · have hscale : d.normalize.scale = 0 := hzero
    omega
  · rw [← value_normalize] at h
    exact places_le_of_div_eq hlast h

/-- No form of the value has fewer places or a smaller mantissa. -/
theorem normalize_le_of_abs_value_eq {d : Decimal} {m s : ℕ} (h : |d.value| = m / 10 ^ s) :
    d.normalize.scale ≤ s ∧ d.normalize.mantissa.natAbs ≤ m := by
  have hscale : d.normalize.scale ≤ s := by
    rcases abs_choice d.value with habs | habs
    · refine normalize_scale_le (m := m) ?_
      rw [← habs, h, Int.cast_natCast]
    · refine normalize_scale_le (m := -m) ?_
      rw [Int.cast_neg, Int.cast_natCast, neg_div, ← h, habs, neg_neg]
  refine ⟨hscale, ?_⟩
  obtain ⟨k, rfl⟩ := Nat.exists_eq_add_of_le hscale
  rw [← value_normalize, abs_value, cast_pow10, pow_add, ← div_div, eq_div_iff (by positivity),
    div_mul_eq_mul_div, div_left_inj' (by positivity)] at h
  have hnat : d.normalize.mantissa.natAbs * 10 ^ k = m := by exact_mod_cast h
  rw [← hnat]
  exact Nat.le_mul_of_pos_right _ (Nat.pow_pos (by decide))

/-- Numbers that are equal have the same normal form. -/
theorem normalize_eq_of_value_eq {d e : Decimal} (h : d.value = e.value) :
    d.normalize = e.normalize := by
  have hle : d.normalize.scale ≤ e.normalize.scale :=
    normalize_scale_le (h.trans (value_normalize e).symm)
  have hge : e.normalize.scale ≤ d.normalize.scale :=
    normalize_scale_le (h.symm.trans (value_normalize d).symm)
  have hscale := Nat.le_antisymm hle hge
  rw [← value_normalize d, ← value_normalize e, value, value, hscale,
    div_left_inj' (by positivity)] at h
  have hmantissa : d.normalize.mantissa = e.normalize.mantissa := by exact_mod_cast h
  generalize d.normalize = d' at hscale hmantissa
  generalize e.normalize = e' at hscale hmantissa
  cases d'
  cases e'
  cases hscale
  cases hmantissa
  rfl

end Compliance.Decimal
