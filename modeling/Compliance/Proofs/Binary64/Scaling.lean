import Compliance.Proofs.Binary64.Shortest

/-!
# Compliance.Proofs.Binary64.Scaling

Doubles that are made of digits and a power of ten by rounding twice.

* `Binary64.Covers.exponent_bounds` — how large a double is whose numbers are known.
* `Binary64.Covers.magnitude_eq`    — fifty-three bits are kept without loss.
* `Binary64.times?_spec`, `Binary64.over?_spec` — products and quotients are rounded once.
* `Binary64.ofParts?_spec`          — the result is a normal double; for digits of fifty-three bits
  and at most twenty-two places it is the nearest one.
-/

namespace Compliance.Binary64

variable {x y : Binary64}

/-! ## Size and precision -/

/-- The numbers that round to a double have one bit more or less than it. -/
theorem Covers.exponent_bounds {v : ℚ} (h : x.Covers v) (hx : x.IsNormal) {a b : ℤ}
    (hlow : 2 ^ a ≤ v) (hhigh : v < 2 ^ b) : a - 52 ≤ x.exponent ∧ x.exponent ≤ b - 52 := by
  obtain ⟨hmin, hmax⟩ := h.bounds hx
  have hquarter := x.quarter_pos
  have hmantissa := hx.le_mantissa_cast
  have hmantissa' : (x.mantissa : ℚ) + 1 ≤ 2 ^ 53 := by exact_mod_cast hx.mantissa_lt
  rw [le_div_iff₀ hquarter] at hmin
  rw [div_le_iff₀ hquarter] at hmax
  have hpow : ∀ k : ℕ, (2 : ℚ) ^ k * x.quarter = 2 ^ (x.exponent + k - 2) := fun k => by
    rw [quarter, ← zpow_natCast, ← zpow_add₀ two_ne_zero]
    congr 1
    ring
  constructor
  · have hlt : (2 : ℚ) ^ a < 2 ^ (x.exponent + (55 : ℕ) - 2) := by
      rw [← hpow]
      nlinarith
    have := (zpow_lt_zpow_iff_right₀ (by norm_num : (1 : ℚ) < 2)).1 hlt
    push_cast at this
    omega
  · have hlt : (2 : ℚ) ^ (x.exponent + (53 : ℕ) - 2) < 2 ^ b := by
      rw [← hpow]
      nlinarith
    have := (zpow_lt_zpow_iff_right₀ (by norm_num : (1 : ℚ) < 2)).1 hlt
    push_cast at this
    omega

/-- A number of fifty-three bits, with zeros behind them, is the only such number that rounds to its
double. -/
theorem Covers.magnitude_eq {s j : ℕ} (h : x.Covers (s * 2 ^ j)) (hx : x.IsNormal)
    (hs : s < 2 ^ 53) : x.magnitude = s * 2 ^ j := by
  have hlow := Interval.Has.low_le hx.isProper h
  obtain ⟨-, hhigh⟩ := h.bounds hx
  rw [hx.interval_low, div_quarter] at hlow
  rw [div_quarter] at hhigh
  have hmantissa := hx.le_mantissa_cast
  have hsq : (s : ℚ) + 1 ≤ 2 ^ 53 := by exact_mod_cast hs
  have hle : x.exponent ≤ j := by
    by_contra hlt
    -- half of fifty-three bits is less than any mantissa
    have hhalf : (s : ℚ) * 2 ^ j / 2 ^ x.exponent ≤ s / 2 := by
      rw [div_le_iff₀ (by positivity)]
      have hstep : (2 : ℚ) ^ ((j : ℤ) + 1) ≤ 2 ^ x.exponent :=
        zpow_le_zpow_right₀ (by norm_num) (by omega)
      rw [zpow_add_one₀ two_ne_zero, zpow_natCast] at hstep
      have hs0 : (0 : ℚ) ≤ s := Nat.cast_nonneg s
      nlinarith
    split at hlow
    · linarith
    · rename_i hm
      have hm' : (2 : ℚ) ^ 52 + 1 ≤ x.mantissa := by
        exact_mod_cast Nat.lt_of_le_of_ne hx.le_mantissa (Ne.symm hm)
      linarith
  obtain ⟨k, hk⟩ := Int.le.dest hle
  have hnat : (s : ℚ) * 2 ^ j / 2 ^ x.exponent = (s * 2 ^ k : ℕ) := by
    rw [div_eq_iff (by positivity), ← zpow_natCast, ← hk, zpow_add₀ two_ne_zero, zpow_natCast]
    push_cast
    ring
  have heq : x.mantissa = s * 2 ^ k := by
    rw [hnat] at hlow hhigh
    have hlow' : (4 * x.mantissa : ℚ) ≤ 4 * (s * 2 ^ k : ℕ) + 2 := by split at hlow <;> linarith
    have hlow'' : 4 * x.mantissa ≤ 4 * (s * 2 ^ k) + 2 := by exact_mod_cast hlow'
    have hhigh' : 4 * (s * 2 ^ k) ≤ 4 * x.mantissa + 2 := by exact_mod_cast hhigh
    omega
  rw [div_eq_iff (by positivity), ← heq] at hnat
  exact hnat.symm

/-! ## Products and quotients -/

theorem ratio_eq (x : Binary64) : (x.ratio.1 : ℚ) / x.ratio.2 = x.magnitude := by
  have htwo : (2 : ℚ) ^ x.exponent = (if x.exponent < 0 then 1 else pow2 x.exponent.natAbs : ℕ) /
      (if x.exponent < 0 then pow2 x.exponent.natAbs else 1 : ℕ) := zpow_eq_div 2 x.exponent
  rw [magnitude, htwo, ratio]
  split
  · rw [Nat.cast_one, mul_one_div]
  · rw [Nat.cast_one, div_one, div_one, Nat.cast_mul]

/-- Far from the ends of the range. -/
def IsModerate (x : Binary64) : Prop := x.exponent.natAbs ≤ 150

theorem IsNormal.ratio_bounds (hx : x.IsNormal) (hmoderate : x.IsModerate) :
    (0 < x.ratio.1 ∧ x.ratio.1 < 2 ^ 203) ∧ 0 < x.ratio.2 ∧ x.ratio.2 < 2 ^ 203 := by
  have hpos : 0 < x.mantissa := Nat.lt_of_lt_of_le (by norm_num) hx.le_mantissa
  have hlt := hx.mantissa_lt
  have hpow : pow2 x.exponent.natAbs ≤ 2 ^ 150 := Nat.pow_le_pow_right (by decide) hmoderate
  have hpow0 := pow2_pos x.exponent.natAbs
  have hmul : x.mantissa * pow2 x.exponent.natAbs < 2 ^ 53 * 2 ^ 150 :=
    Nat.mul_lt_mul_of_lt_of_le hlt hpow (by norm_num)
  rw [ratio]
  split
  · exact ⟨⟨hpos, hlt.trans (by norm_num)⟩, hpow0, hpow.trans_lt (by norm_num)⟩
  · exact ⟨⟨Nat.mul_pos hpos hpow0, by rwa [← Nat.pow_add] at hmul⟩, Nat.one_pos, by norm_num⟩

theorem log2_mul_lt {m n a b : ℕ} (hm : 0 < m ∧ m < 2 ^ a) (hn : 0 < n ∧ n < 2 ^ b) :
    (m * n).log2 < a + b := by
  rw [Nat.log2_lt (Nat.mul_pos hm.1 hn.1).ne', Nat.pow_add]
  exact Nat.mul_lt_mul_of_lt_of_lt hm.2 hn.2

/-- A quotient of products of moderate numbers is rounded to a normal double. -/
theorem ofRatio?_of_products (negative : Bool) {a b c d : ℕ} (ha : 0 < a ∧ a < 2 ^ 203)
    (hb : 0 < b ∧ b < 2 ^ 203) (hc : 0 < c ∧ c < 2 ^ 203) (hd : 0 < d ∧ d < 2 ^ 203) :
    ∃ z, ofRatio? negative (a * b) (c * d) = some z ∧ z.negative = negative ∧ z.IsNormal ∧
      z.Covers ((a * b : ℕ) / (c * d : ℕ)) := by
  have hnum := log2_mul_lt ha hb
  have hden := log2_mul_lt hc hd
  exact ofRatio?_spec negative (Nat.mul_pos ha.1 hb.1) (Nat.mul_pos hc.1 hd.1) (by omega) (by omega)

theorem times?_spec (hx : x.IsNormal) (hxm : x.IsModerate) (hy : y.IsNormal) (hym : y.IsModerate) :
    ∃ z, x.times? y = some z ∧ z.negative = x.negative ∧ z.IsNormal ∧
      z.Covers (x.magnitude * y.magnitude) := by
  obtain ⟨hx1, hx2⟩ := hx.ratio_bounds hxm
  obtain ⟨hy1, hy2⟩ := hy.ratio_bounds hym
  obtain ⟨z, hz, hsign, hnormal, hcovers⟩ := ofRatio?_of_products x.negative hx1 hy1 hx2 hy2
  refine ⟨z, hz, hsign, hnormal, ?_⟩
  rwa [Nat.cast_mul, Nat.cast_mul, ← div_mul_div_comm, ratio_eq, ratio_eq] at hcovers

theorem over?_spec (hx : x.IsNormal) (hxm : x.IsModerate) (hy : y.IsNormal) (hym : y.IsModerate) :
    ∃ z, x.over? y = some z ∧ z.negative = x.negative ∧ z.IsNormal ∧
      z.Covers (x.magnitude / y.magnitude) := by
  obtain ⟨hx1, hx2⟩ := hx.ratio_bounds hxm
  obtain ⟨hy1, hy2⟩ := hy.ratio_bounds hym
  obtain ⟨z, hz, hsign, hnormal, hcovers⟩ := ofRatio?_of_products x.negative hx1 hy2 hx2 hy1
  refine ⟨z, hz, hsign, hnormal, ?_⟩
  rwa [Nat.cast_mul, Nat.cast_mul, ← div_div_div_eq, ratio_eq, ratio_eq] at hcovers

/-! ## Digits and powers of ten -/

/-- A natural number of a hundred and forty bits is rounded to a normal double. -/
theorem ofRatio?_natCast (negative : Bool) {n : ℕ} (hn : 0 < n) (hlt : n < 2 ^ 140) :
    ∃ z, ofRatio? negative n 1 = some z ∧ z.negative = negative ∧ z.IsNormal ∧ z.IsModerate ∧
      z.Covers n := by
  have hlog : n.log2 < 140 := (Nat.log2_lt hn.ne').2 hlt
  have hone : Nat.log2 1 = 0 := rfl
  obtain ⟨z, hz, hsign, hnormal, hcovers⟩ :=
    ofRatio?_spec negative hn Nat.one_pos (by omega) (by omega)
  rw [Nat.cast_one, div_one] at hcovers
  have hlow : (2 : ℚ) ^ (0 : ℤ) ≤ n := by exact_mod_cast hn
  have hhigh : (n : ℚ) < 2 ^ (140 : ℤ) := by exact_mod_cast hlt
  obtain ⟨hmin, hmax⟩ := hcovers.exponent_bounds hnormal hlow hhigh
  refine ⟨z, hz, hsign, hnormal, ?_, hcovers⟩
  rw [IsModerate]
  omega

theorem tenPower?_spec {k : ℕ} (hk : k ≤ 40) :
    ∃ p, tenPower? k = some p ∧ p.IsNormal ∧ p.IsModerate ∧ (k ≤ 22 → p.magnitude = 10 ^ k) := by
  have hpow : pow10 k ≤ 10 ^ 40 := Nat.pow_le_pow_right (by decide) hk
  have hpos : 0 < pow10 k := Nat.pow_pos (by decide)
  obtain ⟨p, hp, -, hnormal, hmoderate, hcovers⟩ :=
    ofRatio?_natCast false hpos (hpow.trans_lt (by norm_num))
  refine ⟨p, hp, hnormal, hmoderate, fun hsmall => ?_⟩
  have hfactors : ((pow10 k : ℕ) : ℚ) = (5 ^ k : ℕ) * 2 ^ k := by
    rw [Decimal.cast_pow10]
    push_cast
    rw [← mul_pow]
    norm_num
  have hfive : 5 ^ k < 2 ^ 53 :=
    (Nat.pow_le_pow_right (by decide) hsmall).trans_lt (by norm_num : 5 ^ 22 < 2 ^ 53)
  rw [hfactors] at hcovers
  rw [hcovers.magnitude_eq hnormal hfive, ← hfactors, Decimal.cast_pow10]

/-- One power of ten is enough where it is in range. -/
theorem ofParts?_eq (negative : Bool) (n : ℕ) {e : ℤ} (he : e.natAbs ≤ maxTenPower) :
    ofParts? negative n e = (ofRatio? negative n 1).bind fun x =>
      (tenPower? e.natAbs).bind fun p => if e < 0 then x.over? p else x.times? p := by
  have hscale : ∀ x : Binary64, x.scaleTen? e =
      (tenPower? e.natAbs).bind fun p => if e < 0 then x.over? p else x.times? p := fun x => by
    rw [scaleTen?, if_pos he]
    rfl
  exact Option.bind_congr fun x _ => hscale x

/-- Digits of sixty-four bits with a moderate exponent make a normal double. It is the nearest one
where neither they nor the power of ten are rounded. -/
theorem ofParts?_spec (negative : Bool) {n : ℕ} (hn : 0 < n) (hlt : n < 2 ^ 64) {e : ℤ}
    (he : e.natAbs ≤ 40) :
    ∃ z, ofParts? negative n e = some z ∧ z.negative = negative ∧ z.IsNormal ∧
      (n < 2 ^ 53 → -22 ≤ e → e ≤ 0 → z.Covers (n / 10 ^ e.natAbs)) := by
  obtain ⟨x, hx, hsign, hnormal, hmoderate, hcovers⟩ :=
    ofRatio?_natCast negative hn (hlt.trans (by norm_num))
  obtain ⟨p, hp, hpnormal, hpmoderate, hpexact⟩ := tenPower?_spec he
  have hexact : n < 2 ^ 53 → x.magnitude = n := fun hsmall => by
    have hx0 : x.Covers (n * 2 ^ 0) := by rwa [pow_zero, mul_one]
    rw [hx0.magnitude_eq hnormal hsmall, pow_zero, mul_one]
  have hscale : ofParts? negative n e = if e < 0 then x.over? p else x.times? p := by
    rw [ofParts?_eq _ _ (he.trans (by decide)), hx, Option.bind_some, hp, Option.bind_some]
  rw [hscale]
  split
  · obtain ⟨z, hz, hzsign, hznormal, hzcovers⟩ := over?_spec hnormal hmoderate hpnormal hpmoderate
    refine ⟨z, hz, hzsign.trans hsign, hznormal, fun hsmall hlow _ => ?_⟩
    rwa [hexact hsmall, hpexact (by omega)] at hzcovers
  · obtain ⟨z, hz, hzsign, hznormal, hzcovers⟩ := times?_spec hnormal hmoderate hpnormal hpmoderate
    refine ⟨z, hz, hzsign.trans hsign, hznormal, fun hsmall hlow hhigh => ?_⟩
    have hzero : e.natAbs = 0 := by omega
    rw [hexact hsmall, hpexact (by omega), hzero, pow_zero, mul_one] at hzcovers
    rwa [hzero, pow_zero, div_one]

end Compliance.Binary64
