import Compliance.Proofs.Decimal.Value
import Compliance.Proofs.Rounding

/-!
# Compliance.Proofs.Decimal.Product

Products of decimals, which lose places where these do not fit.

* `Decimal.IsFitted`             — a number rounded to as many places as a decimal can hold.
* `Decimal.isFitted_times?`      — the product is, up to its sign.
* `Decimal.truncate_times?_mono` — the integer part of the product grows with the factors.
* `Decimal.truncate_times?_int`  — a product that is an integer is not rounded.
-/

namespace Compliance.Decimal

/-- The magnitude `x` is rounded to `r / 10 ^ p`: ninety-six bits hold `r`, and there is no further
place because none is needed, none is left, or one more would not fit. -/
structure IsFitted (x : ℚ) (p r : ℕ) : Prop where
  rounded : IsHalfEven (x * 10 ^ p) r
  fits : r < bound
  le_maxScale : p ≤ maxScale
  full : x * 10 ^ p = r ∨ p = maxScale ∨
    ∃ next, IsHalfEven (x * 10 ^ (p + 1)) next ∧ bound ≤ next

/-- Rounding does not change the order of the integer parts, whatever places it keeps. -/
theorem IsFitted.div_mono {x y : ℚ} {p q r s : ℕ} (hx : IsFitted x p r) (hy : IsFitted y q s)
    (h0 : 0 ≤ x) (h : x ≤ y) : r / 10 ^ p ≤ s / 10 ^ q := by
  have hp : (0 : ℚ) < 10 ^ p := by positivity
  have hq : (0 : ℚ) < 10 ^ q := by positivity
  rw [Nat.le_div_iff_mul_le (by positivity)]
  have hle : r / 10 ^ p * 10 ^ p ≤ r := Nat.div_mul_le_self _ _
  generalize r / 10 ^ p = n at hle ⊢
  have hleq : (n : ℚ) * 10 ^ p ≤ r := by exact_mod_cast hle
  rcases lt_trichotomy p q with hpq | rfl | hpq
  · rcases hx.full with hexact | hmax | ⟨next, hnext, hbound⟩
    · -- nothing was lost, so that `n` lies below the greater number, too
      have hnx : (n : ℚ) ≤ x := le_of_mul_le_mul_right (hexact ▸ hleq) hp
      have hny : (n : ℚ) * 10 ^ q ≤ y * 10 ^ q := mul_le_mul_of_nonneg_right (hnx.trans h) hq.le
      refine hy.rounded.le_of_sub_lt ?_
      push_cast
      linarith
    · have := hy.le_maxScale
      omega
    · -- the greater number has a place more, which the lesser one could have had
      have hscaled : x * 10 ^ (p + 1) ≤ y * 10 ^ q :=
        mul_le_mul h (pow_le_pow_right₀ (by norm_num) hpq) (by positivity) (h0.trans h)
      have hns := hnext.mono hy.rounded hscaled
      have := hy.fits
      omega
  · exact hle.trans (hx.rounded.mono hy.rounded (mul_le_mul_of_nonneg_right h hp.le))
  · -- the greater number is rounded the more, and `n` is one of the numbers it can be rounded to
    obtain ⟨k, rfl⟩ := Nat.exists_eq_add_of_lt hpq
    have hk : (1 : ℚ) < 10 ^ (k + 1) := one_lt_pow₀ (by norm_num) (by omega)
    have hsplit : (10 : ℚ) ^ (q + k + 1) = 10 ^ q * 10 ^ (k + 1) := by rw [add_assoc, pow_add]
    have hscaled : x * 10 ^ (q + k + 1) ≤ y * 10 ^ (q + k + 1) :=
      mul_le_mul_of_nonneg_right h hp.le
    have hround := hx.rounded.sub_le
    refine hy.rounded.le_of_sub_lt ?_
    push_cast
    by_contra hfar
    rw [hsplit] at hleq hscaled hround
    nlinarith

/-! ## Searching the places -/

theorem ofParts?_eq_some {m : ℤ} {s : ℕ} {d : Decimal} (h : ofParts? m s = some d) :
    d.mantissa = m ∧ d.scale = s := by
  rw [ofParts?] at h
  split at h
  · cases h
    exact ⟨rfl, rfl⟩
  · cases h

/-- A magnitude with a sign. -/
def withSign (negative : Bool) (n : ℕ) : ℤ := if negative then -n else n

theorem natAbs_withSign (negative : Bool) (n : ℕ) : (withSign negative n).natAbs = n := by
  cases negative
  · exact Int.natAbs_natCast n
  · exact (Int.natAbs_neg _).trans (Int.natAbs_natCast n)

theorem ofParts?_withSign (negative : Bool) (n s : ℕ) (hs : s ≤ maxScale) :
    (ofParts? (withSign negative n) s).isSome = true ↔ n < bound := by
  rw [ofParts?]
  split
  · rename_i h
    rw [natAbs_withSign] at h
    exact iff_of_true rfl h.1
  · rename_i h
    rw [natAbs_withSign] at h
    exact iff_of_false nofun fun hn => h ⟨hn, hs⟩

theorem fitMagnitude?_succ (negative : Bool) (m s k fuel : ℕ) :
    fitMagnitude? negative m s k (fuel + 1) =
      if s < k then none
      else (ofParts? (withSign negative (divHalfEven m (pow10 k))) (s - k)).or
        (fitMagnitude? negative m s (k + 1) fuel) := by
  rw [fitMagnitude?]
  split
  · rfl
  · rw [withSign]
    cases negative <;> simp only [Bool.false_eq_true, ↓reduceIte] <;> split <;> rename_i h <;>
      simp [h]

/-- What fits first has all the places it was asked for, or one place more would be too many. -/
theorem fitMagnitude?_eq_some {negative : Bool} {m s k fuel : ℕ} {d : Decimal}
    (hs : s ≤ k + maxScale) (h : fitMagnitude? negative m s k fuel = some d) :
    ∃ j, k ≤ j ∧ j ≤ s ∧ d.scale = s - j ∧
      d.mantissa = withSign negative (divHalfEven m (pow10 j)) ∧
      (j = k ∨ ∃ i, j = i + 1 ∧ bound ≤ divHalfEven m (pow10 i)) := by
  induction fuel generalizing k with
  | zero => cases h
  | succ fuel ih =>
    rw [fitMagnitude?_succ] at h
    split at h
    · cases h
    · rename_i hk
      rw [Option.or_eq_some_iff] at h
      rcases h with hfirst | ⟨hnone, hrest⟩
      · obtain ⟨hm, hscale⟩ := ofParts?_eq_some hfirst
        exact ⟨k, le_rfl, Nat.le_of_not_lt hk, hscale, hm, .inl rfl⟩
      · obtain ⟨j, hkj, hjs, hscale, hm, hfull⟩ := ih (by omega) hrest
        refine ⟨j, by omega, hjs, hscale, hm, .inr ?_⟩
        rcases hfull with rfl | hfull
        · refine ⟨k, rfl, Nat.le_of_not_lt fun hlt => ?_⟩
          have hsome := (ofParts?_withSign negative _ (s - k) (by omega)).2 hlt
          rw [hnone] at hsome
          cases hsome
        · exact hfull

theorem isSome_fitMagnitude? {negative : Bool} {m s k fuel : ℕ} (hk : k ≤ s) (hfuel : s < k + fuel)
    (hfits : divHalfEven m (pow10 s) < bound) :
    (fitMagnitude? negative m s k fuel).isSome = true := by
  induction fuel generalizing k with
  | zero => omega
  | succ fuel ih =>
    rw [fitMagnitude?_succ, if_neg (Nat.not_lt.2 hk), Option.isSome_or, Bool.or_eq_true]
    rcases Nat.eq_or_lt_of_le hk with rfl | hlt
    · exact .inl ((ofParts?_withSign negative _ _ (by omega)).2 hfits)
    · exact .inr (ih hlt (by omega))

/-! ## Products -/

variable {a b d : Decimal}

theorem value_mul (a b : Decimal) :
    a.value * b.value = (a.mantissa * b.mantissa : ℤ) / 10 ^ (a.scale + b.scale) := by
  rw [value, value, div_mul_div_comm, ← pow_add, Int.cast_mul]

theorem value_mul_neg_iff : a.value * b.value < 0 ↔ a.mantissa * b.mantissa < 0 := by
  rw [value_mul, div_lt_iff₀ (by positivity), zero_mul]
  exact_mod_cast Iff.rfl

theorem abs_value_mul (a b : Decimal) :
    |a.value * b.value| = ((a.mantissa * b.mantissa).natAbs : ℕ) / 10 ^ (a.scale + b.scale) := by
  rw [value_mul, abs_div, abs_of_pos (by positivity : (0 : ℚ) < 10 ^ (a.scale + b.scale)),
    Nat.cast_natAbs, Int.cast_abs]

/-- Shifting the point to the right takes powers of ten from the denominator. -/
theorem div_pow_mul_pow {m s j : ℕ} (h : j ≤ s) :
    (m : ℚ) / 10 ^ s * 10 ^ (s - j) = (m : ℚ) / (pow10 j : ℕ) := by
  obtain ⟨i, rfl⟩ := Nat.exists_eq_add_of_le h
  rw [cast_pow10, Nat.add_sub_cancel_left, pow_add]
  field_simp

theorem pow10_pos (k : ℕ) : 0 < pow10 k := Nat.pow_pos (by decide)

/-- A product is the product of the values, rounded to the places that fit. -/
theorem isFitted_times? (h : times? a b = some d) :
    ∃ r, IsFitted |a.value * b.value| d.scale r ∧
      d.mantissa = withSign (a.mantissa * b.mantissa < 0) r := by
  rw [abs_value_mul]
  simp only [times?] at h
  split at h
  · rename_i hzero
    cases h
    rw [beq_iff_eq] at hzero
    refine ⟨0, ⟨?_, by decide, by decide, .inl ?_⟩, by rw [hzero]; rfl⟩
    · simpa [hzero, zero] using isHalfEven_natCast 0
    · simp [hzero]
  · obtain ⟨j, hkj, hjs, hscale, hm, hfull⟩ := fitMagnitude?_eq_some (by omega) h
    generalize (a.mantissa * b.mantissa).natAbs = m at hm hfull
    generalize hs : a.scale + b.scale = s at hkj hjs hscale hfull
    have hlt := d.mantissa_lt
    rw [hm, natAbs_withSign] at hlt
    refine ⟨_, ⟨?_, hlt, d.scale_le, ?_⟩, hm⟩
    · rw [hscale, div_pow_mul_pow hjs]
      exact isHalfEven_divHalfEven m (pow10_pos j)
    · rw [hscale, div_pow_mul_pow hjs]
      rcases hfull with hfirst | ⟨i, rfl, hbound⟩
      · -- no place had to be given up, apart from those that a decimal never has
        rcases Nat.eq_zero_or_pos j with rfl | hpos
        · rw [show pow10 0 = 1 from rfl, divHalfEven_one, Nat.cast_one, div_one]
          exact .inl rfl
        · exact .inr (.inl (by omega))
      · refine .inr (.inr ⟨_, ?_, hbound⟩)
        rw [show s - (i + 1) + 1 = s - i by omega, div_pow_mul_pow (by omega)]
        exact isHalfEven_divHalfEven m (pow10_pos i)

theorem truncate_of_withSign {negative : Bool} {r : ℕ} (h : d.mantissa = withSign negative r) :
    d.truncate = withSign negative (r / 10 ^ d.scale) := by
  have hdiv : (r : ℤ).tdiv (pow10 d.scale) = (r / 10 ^ d.scale : ℕ) := Int.ofNat_tdiv _ _
  rw [truncate, h]
  cases negative
  · exact hdiv
  · exact (Int.neg_tdiv _ _).trans (congrArg Neg.neg hdiv)

/-- The integer part of a product grows with the product of the values. -/
theorem truncate_times?_mono {a' b' d' : Decimal} (h : times? a b = some d)
    (h' : times? a' b' = some d') (hle : a.value * b.value ≤ a'.value * b'.value) :
    d.truncate ≤ d'.truncate := by
  obtain ⟨r, hr, hm⟩ := isFitted_times? h
  obtain ⟨s, hs, hm'⟩ := isFitted_times? h'
  rw [truncate_of_withSign hm, truncate_of_withSign hm']
  simp only [← value_mul_neg_iff, withSign, decide_eq_true_eq]
  by_cases hneg : a.value * b.value < 0
  · rw [if_pos hneg]
    by_cases hneg' : a'.value * b'.value < 0
    · have hdiv := hs.div_mono hr (abs_nonneg _)
        (by rw [abs_of_neg hneg, abs_of_neg hneg']; exact neg_le_neg hle)
      rw [if_pos hneg']
      omega
    · rw [if_neg hneg']
      exact (Int.neg_nonpos_of_nonneg (Int.natCast_nonneg _)).trans (Int.natCast_nonneg _)
  · have hneg' : ¬ a'.value * b'.value < 0 := fun hlt => hneg (hle.trans_lt hlt)
    have hdiv := hr.div_mono hs (abs_nonneg _)
      (by rw [abs_of_nonneg (not_lt.1 hneg), abs_of_nonneg (not_lt.1 hneg')]; exact hle)
    rw [if_neg hneg, if_neg hneg']
    omega

/-- A product that is an integer of few digits is not rounded. -/
theorem truncate_times?_int {z : ℤ} (hz : z.natAbs < bound) (h : a.value * b.value = z) :
    ∃ d, times? a b = some d ∧ d.truncate = z := by
  have habs : |a.value * b.value| = (z.natAbs : ℕ) := by rw [h, Nat.cast_natAbs, Int.cast_abs]
  have hsign : a.mantissa * b.mantissa < 0 ↔ z < 0 := by
    rw [← value_mul_neg_iff, h]
    exact_mod_cast Iff.rfl
  have hsome : (times? a b).isSome = true := by
    simp only [times?]
    split
    · rfl
    · -- without any place the product is the integer
      refine isSome_fitMagnitude? (by omega) (by omega) ?_
      have hround := isHalfEven_divHalfEven (a.mantissa * b.mantissa).natAbs
        (pow10_pos (a.scale + b.scale))
      rw [cast_pow10, ← abs_value_mul, habs] at hround
      rwa [hround.eq_of_natCast]
  obtain ⟨d, hd⟩ := Option.isSome_iff_exists.1 hsome
  obtain ⟨r, hr, hm⟩ := isFitted_times? hd
  refine ⟨d, hd, ?_⟩
  have hround := hr.rounded
  rw [habs] at hround
  have hscaled : r = z.natAbs * 10 ^ d.scale :=
    IsHalfEven.eq_of_natCast (by push_cast; exact hround)
  rw [truncate_of_withSign hm, hscaled, Nat.mul_div_cancel _ (by positivity)]
  simp only [withSign, hsign, decide_eq_true_eq]
  split <;> omega

end Compliance.Decimal
