import Compliance.Decimal.Reading
import Compliance.Proofs.Decimal.Product

/-!
# Compliance.Proofs.Decimal.Shift

Multiplication by a power of ten does not round.

* `Decimal.value_times?_pow10`  — the product with a power of ten is exact.
* `Decimal.value_shiftLeft`     — so is a product in several steps.
* `Decimal.exists_shiftLeft`    — which exists where the integer part fits.
-/

namespace Compliance.Decimal

variable {a d : Decimal} {j k : ℕ}

/-- The number `y`, or its opposite. -/
def signed (negative : Bool) (y : ℚ) : ℚ := if negative then -y else y

theorem abs_signed (negative : Bool) {y : ℚ} (hy : 0 ≤ y) : |signed negative y| = y := by
  cases negative
  · exact abs_of_nonneg hy
  · exact (abs_neg y).trans (abs_of_nonneg hy)

theorem signed_mul (negative : Bool) (y z : ℚ) :
    signed negative y * z = signed negative (y * z) := by
  cases negative
  · rfl
  · exact neg_mul y z

theorem signed_abs (y : ℚ) : signed (y < 0) |y| = y := by
  by_cases h : y < 0
  · rw [signed, if_pos (decide_eq_true h), abs_of_neg h, neg_neg]
  · rw [signed, if_neg (by simpa using h), abs_of_nonneg (not_lt.1 h)]

theorem value_of_withSign {negative : Bool} {n : ℕ} (h : d.mantissa = withSign negative n) :
    d.value = signed negative (n / 10 ^ d.scale) := by
  rw [value, h]
  cases negative
  · rfl
  · rw [withSign, if_pos rfl, signed, if_pos rfl]
    push_cast
    exact neg_div _ _

/-! ## One step -/

theorem exists_ofInt?_pow10 (hj : j ≤ maxStep) :
    ∃ p, ofInt? (pow10 j) = some p ∧ p.value = 10 ^ j := by
  have hfit : ((pow10 j : ℕ) : ℤ).natAbs < bound ∧ 0 ≤ maxScale := by
    have hle : pow10 j ≤ 10 ^ 19 := Nat.pow_le_pow_right (by decide) hj
    rw [Int.natAbs_natCast]
    exact ⟨Nat.lt_of_le_of_lt hle (by decide), Nat.zero_le _⟩
  refine ⟨⟨pow10 j, 0, hfit.1, hfit.2⟩, dif_pos hfit, ?_⟩
  rw [value, pow_zero, div_one, Int.cast_natCast, cast_pow10]

/-- A number with places, moved to the left and taken with more places. -/
theorem abs_value_mul_pow (a : Decimal) {j p e : ℕ} (he : a.scale + e = j + p) :
    |a.value| * 10 ^ j * 10 ^ p = (a.mantissa.natAbs * 10 ^ e : ℕ) := by
  have hpow : (10 : ℚ) ^ j * 10 ^ p = 10 ^ a.scale * 10 ^ e := by rw [← pow_add, ← pow_add, he]
  rw [mul_assoc, hpow, abs_value, cast_pow10, ← mul_assoc, div_mul_cancel₀ _ (by positivity)]
  push_cast
  rfl

/-- What is given up of a product with a power of ten are zeros: with as many places less as the
power has zeros, the digits of the other factor are left. -/
theorem value_times?_pow10 {p : Decimal} (hp : p.value = 10 ^ j) (h : times? a p = some d) :
    d.value = a.value * 10 ^ j := by
  obtain ⟨r, hfit, hsign⟩ := isFitted_times? h
  have habs : |a.value * p.value| = |a.value| * 10 ^ j := by
    rw [abs_mul, hp, abs_of_pos (by positivity : (0 : ℚ) < 10 ^ j)]
  have hexact : |a.value * p.value| * 10 ^ d.scale = r := by
    rw [habs]
    rcases Nat.lt_or_ge (j + d.scale) a.scale with hlt | hle
    · -- too few places for all of the factor's digits: none had to be given up
      rcases hfit.full with hfull | hmax | ⟨next, hnext, hbound⟩
      · rw [← habs, hfull]
      · have := a.scale_le
        omega
      · have hsmall : |a.value * p.value| * 10 ^ (d.scale + 1) ≤ (a.mantissa.natAbs : ℕ) := by
          have hall := abs_value_mul_pow a (j := a.scale) (p := 0) (e := 0) rfl
          rw [pow_zero, mul_one, Nat.pow_zero, Nat.mul_one] at hall
          rw [habs, ← hall, mul_assoc, ← pow_add]
          have hpow : (10 : ℚ) ^ (j + (d.scale + 1)) ≤ 10 ^ a.scale :=
            pow_le_pow_right₀ (by norm_num) (by omega)
          exact mul_le_mul_of_nonneg_left hpow (abs_nonneg _)
        have hle := hnext.mono (isHalfEven_natCast _) hsmall
        have := a.mantissa_lt
        omega
    · obtain ⟨e, he⟩ := Nat.exists_eq_add_of_le hle
      have hnat := abs_value_mul_pow a he.symm
      have hround := hfit.rounded
      rw [habs, hnat] at hround
      rw [hnat, hround.eq_of_natCast]
  have hneg : decide (a.mantissa * p.mantissa < 0) = decide (a.value * p.value < 0) :=
    decide_eq_decide.2 value_mul_neg_iff.symm
  have hr : (r : ℚ) / 10 ^ d.scale = |a.value * p.value| := by
    rw [← hexact, mul_div_cancel_right₀ _ (by positivity)]
  rw [value_of_withSign hsign, hneg, hr, signed_abs, hp]

/-- A product whose integer part fits exists. -/
theorem exists_times?_pow10 {p : Decimal} (hp : p.value = 10 ^ j)
    (h : |a.value| * 10 ^ j ≤ (bound - 1 : ℕ)) : ∃ d, times? a p = some d := by
  rw [← Option.isSome_iff_exists, times?]
  split
  · rfl
  · refine isSome_fitMagnitude? (by omega) (by omega) ?_
    have hround := isHalfEven_divHalfEven (a.mantissa * p.mantissa).natAbs
      (pow10_pos (a.scale + p.scale))
    rw [cast_pow10, ← abs_value_mul, abs_mul, hp, abs_of_pos (by positivity : (0 : ℚ) < 10 ^ j)]
      at hround
    have hle := hround.mono (isHalfEven_natCast _) h
    have hbound : 0 < bound := by decide
    omega

/-! ## Several steps -/

/-- One step multiplies by a power of ten, and leaves the rest of the zeros to the next one. -/
theorem shiftLeft_step (a : Decimal) (hk : k ≠ 0) :
    ∃ (j : ℕ) (p : Decimal), p.value = 10 ^ j ∧ k = j + (k - maxStep) ∧
      shiftLeft a k =
        ((times? a p).map (shiftLeft · (k - maxStep))).getD (.error .tooLarge) := by
  rw [shiftLeft, if_neg hk]
  generalize hj : (if k < maxStep then k else maxStep) = j
  have hjk : j ≤ maxStep ∧ k = j + (k - maxStep) := by
    rw [← hj]
    split <;> omega
  obtain ⟨p, hp, hvalue⟩ := exists_ofInt?_pow10 hjk.1
  refine ⟨j, p, hvalue, hjk.2, ?_⟩
  rw [hp, Option.bind_some]
  cases times? a p <;> rfl

theorem lt_of_step (hk : k ≠ 0) : k - maxStep < k := Nat.sub_lt (Nat.pos_of_ne_zero hk) (by decide)

theorem value_shiftLeft (h : shiftLeft a k = .ok d) : d.value = a.value * 10 ^ k := by
  induction k using Nat.strong_induction_on generalizing a with
  | _ k ih =>
    by_cases hk : k = 0
    · rw [shiftLeft, if_pos hk] at h
      cases h
      rw [hk, pow_zero, mul_one]
    · obtain ⟨j, p, hp, hsplit, hstep⟩ := shiftLeft_step a hk
      rw [hstep] at h
      cases htimes : times? a p with
      | none =>
        rw [htimes] at h
        cases h
      | some b =>
        rw [htimes] at h
        rw [ih _ (lt_of_step hk) h, value_times?_pow10 hp htimes, mul_assoc, ← pow_add, ← hsplit]

theorem exists_shiftLeft (h : |a.value| * 10 ^ k ≤ (bound - 1 : ℕ)) :
    ∃ d, shiftLeft a k = .ok d := by
  induction k using Nat.strong_induction_on generalizing a with
  | _ k ih =>
    by_cases hk : k = 0
    · exact ⟨a, by rw [shiftLeft, if_pos hk]⟩
    · obtain ⟨j, p, hp, hsplit, hstep⟩ := shiftLeft_step a hk
      have hpow : (10 : ℚ) ^ j ≤ 10 ^ k := pow_le_pow_right₀ (by norm_num) (by omega)
      obtain ⟨b, htimes⟩ := exists_times?_pow10 hp
        (h.trans' (mul_le_mul_of_nonneg_left hpow (abs_nonneg _)))
      rw [hstep, htimes]
      refine ih _ (lt_of_step hk) ?_
      rw [value_times?_pow10 hp htimes, abs_mul, abs_of_pos (by positivity : (0 : ℚ) < 10 ^ j),
        mul_assoc, ← pow_add, ← hsplit]
      exact h

end Compliance.Decimal
