import Compliance.Proofs.Binary64.Nearest
import Mathlib.Data.Rat.Floor

/-!
# Compliance.Proofs.Binary64.Shortest

The shortest decimal fraction that rounds to a double.

* `Binary64.Interval.Has.between`     — what rounds to a double is an interval.
* `Binary64.Interval.multiple?_cases` — a multiple of a power of ten is found if there is one.
* `Binary64.IsShortest`               — a fraction in the interval; no greater power of ten has one.
* `Binary64.isShortest_shortest`      — the fraction that is written is the shortest.
* `Binary64.IsShortest.lt`            — it has at most seventeen digits.
* `Binary64.IsShortest.eq_of_covers`  — a fraction of at most fifteen digits is found again.
-/

namespace Compliance.Binary64

/-! ## Intervals -/

namespace Interval

variable {i : Interval} {y z w : ℚ}

/-- The number lies between the ends of its interval. -/
structure IsProper (i : Interval) : Prop where
  low_lt : (i.low : ℚ) < i.value
  lt_high : (i.value : ℚ) < i.high

theorem IsProper.has_value (hi : i.IsProper) : i.Has i.value := .inl ⟨hi.low_lt, hi.lt_high⟩

theorem Has.low_le (hi : i.IsProper) (h : i.Has y) : i.low ≤ y := by
  rcases h with ⟨hlow, -⟩ | ⟨-, rfl | rfl⟩
  · exact hlow.le
  · exact le_rfl
  · exact (hi.low_lt.trans hi.lt_high).le

theorem Has.le_high (hi : i.IsProper) (h : i.Has y) : y ≤ i.high := by
  rcases h with ⟨-, hhigh⟩ | ⟨-, rfl | rfl⟩
  · exact hhigh.le
  · exact (hi.low_lt.trans hi.lt_high).le
  · exact le_rfl

theorem Has.between (hy : i.Has y) (hi : i.IsProper) (hw : i.Has w) (hyz : y ≤ z) (hzw : z ≤ w) :
    i.Has z := by
  rcases hyz.eq_or_lt with rfl | hyz
  · exact hy
  · rcases hzw.eq_or_lt with rfl | hzw
    · exact hw
    · exact .inl ⟨(hy.low_le hi).trans_lt hyz, hzw.trans_le (hw.le_high hi)⟩

/-! ## Multiples of a power of ten -/

/-- What the ends of the interval are multiplied by, and what a multiple is. -/
def unitOf (exponent p : ℤ) : ℕ :=
  (if exponent - 2 < 0 then 1 else pow2 (exponent - 2).natAbs) *
    (if p < 0 then pow10 p.natAbs else 1)

def stepOf (exponent p : ℤ) : ℕ :=
  (if exponent - 2 < 0 then pow2 (exponent - 2).natAbs else 1) *
    (if p < 0 then 1 else pow10 p.natAbs)

theorem unitOf_pos (exponent p : ℤ) : 0 < unitOf exponent p := by
  refine Nat.mul_pos ?_ ?_
  · split
    · exact Nat.one_pos
    · exact pow2_pos _
  · split
    · exact Nat.pow_pos (by decide)
    · exact Nat.one_pos

theorem stepOf_pos (exponent p : ℤ) : 0 < stepOf exponent p := by
  refine Nat.mul_pos ?_ ?_
  · split
    · exact pow2_pos _
    · exact Nat.one_pos
  · split
    · exact Nat.one_pos
    · exact Nat.pow_pos (by decide)

/-- The power of ten in quarters of the last place. -/
theorem step_div_unit (exponent p : ℤ) :
    (stepOf exponent p : ℚ) / unitOf exponent p = 10 ^ p / 2 ^ (exponent - 2) := by
  have hten : (10 : ℚ) ^ p = (if p < 0 then 1 else pow10 p.natAbs : ℕ) /
      (if p < 0 then pow10 p.natAbs else 1 : ℕ) := zpow_eq_div 10 p
  have htwo : (2 : ℚ) ^ (exponent - 2) =
      (if exponent - 2 < 0 then 1 else pow2 (exponent - 2).natAbs : ℕ) /
        (if exponent - 2 < 0 then pow2 (exponent - 2).natAbs else 1 : ℕ) :=
    zpow_eq_div 2 (exponent - 2)
  rw [hten, htwo, stepOf, unitOf, Nat.cast_mul, Nat.cast_mul, div_div_div_eq]
  congr 1 <;> exact mul_comm _ _

theorem holds_iff {unit step : ℕ} (hunit : 0 < unit) (t : ℕ) :
    i.holds unit step t = true ↔ i.Has (t * (step / unit)) := by
  have hpos : (0 : ℚ) < unit := by exact_mod_cast hunit
  have hmul : (t : ℚ) * (step / unit) = (t * step : ℕ) / unit := by
    push_cast
    ring
  rw [hmul, Has, lt_div_iff₀ hpos, div_lt_iff₀ hpos, div_eq_iff hpos.ne', div_eq_iff hpos.ne']
  simp only [holds, Bool.or_eq_true, Bool.and_eq_true, decide_eq_true_eq, beq_iff_eq]
  exact_mod_cast Iff.rfl

/-- If there are multiples in the interval, one of those next to the number is among them. -/
theorem Has.neighbour {r : ℚ} {below s : ℕ} (hs : i.Has (s * r)) (hi : i.IsProper) (hr : 0 < r)
    (hbelow : below * r ≤ i.value) (habove : i.value ≤ ((below + 1 : ℕ) : ℚ) * r) :
    i.Has (below * r) ∨ i.Has ((below + 1 : ℕ) * r) := by
  rcases Nat.lt_or_ge below s with hlt | hle
  · have hmono : ((below + 1 : ℕ) : ℚ) * r ≤ s * r := by gcongr; omega
    exact .inr (hi.has_value.between hi hs habove hmono)
  · have hmono : (s : ℚ) * r ≤ below * r := by gcongr
    exact .inl (hs.between hi hi.has_value hmono hbelow)

/-- The multiple `s * 10 ^ p` lies in the interval around a double of this exponent. -/
def Hits (i : Interval) (exponent p : ℤ) (s : ℕ) : Prop :=
  i.Has (s * (10 ^ p / 2 ^ (exponent - 2)))

/-- A multiple that is found lies in the interval, and where none is found there is none: those on
either side of the number have been tried. -/
theorem multiple?_cases (hi : i.IsProper) (exponent p : ℤ) :
    (∃ t, i.multiple? exponent p = some t ∧ i.Hits exponent p t) ∨
      (i.multiple? exponent p = none ∧ ∀ s, ¬ i.Hits exponent p s) := by
  have hunit := unitOf_pos exponent p
  have hstep := stepOf_pos exponent p
  have hmultiple : i.multiple? exponent p =
      (let below := i.value * unitOf exponent p / stepOf exponent p
      let nearest := divHalfEven (i.value * unitOf exponent p) (stepOf exponent p)
      let other := if nearest == below then below + 1 else below
      if i.holds (unitOf exponent p) (stepOf exponent p) nearest then some nearest
      else if i.holds (unitOf exponent p) (stepOf exponent p) other then some other
      else none) := rfl
  simp only [hmultiple, Hits, ← step_div_unit]
  generalize unitOf exponent p = unit at hunit ⊢
  generalize stepOf exponent p = step at hstep ⊢
  have hholds : ∀ t : ℕ, i.holds unit step t = true ↔ i.Has (t * (step / unit)) := holds_iff hunit
  have hr : (0 : ℚ) < step / unit := by positivity
  have hbelow : ((i.value * unit / step : ℕ) : ℚ) * (step / unit) ≤ i.value := by
    rw [mul_div_assoc', div_le_iff₀ (by exact_mod_cast hunit)]
    exact_mod_cast Nat.div_mul_le_self _ _
  have habove : (i.value : ℚ) ≤ ((i.value * unit / step + 1 : ℕ) : ℚ) * (step / unit) := by
    rw [mul_div_assoc', le_div_iff₀ (by exact_mod_cast hunit)]
    exact_mod_cast (Nat.lt_mul_of_div_lt (Nat.lt_succ_self _) hstep).le
  have hnearest := divHalfEven_eq (i.value * unit) step
  generalize i.value * unit / step = below at hbelow habove hnearest ⊢
  generalize divHalfEven (i.value * unit) step = nearest at hnearest ⊢
  generalize hother : (if nearest == below then below + 1 else below) = other
  generalize (step : ℚ) / unit = r at hr hbelow habove hholds ⊢
  split
  · exact .inl ⟨nearest, rfl, (hholds nearest).1 ‹_›⟩
  · split
    · exact .inl ⟨other, rfl, (hholds other).1 ‹_›⟩
    · rename_i hmiss hmiss'
      rw [hholds] at hmiss hmiss'
      refine .inr ⟨rfl, fun s hs => ?_⟩
      have hneighbour := hs.neighbour hi hr hbelow habove
      rcases hnearest with rfl | rfl
      · rw [beq_self_eq_true, if_pos rfl] at hother
        exact hneighbour.elim hmiss (hother ▸ hmiss')
      · rw [if_neg (by simp)] at hother
        exact hneighbour.elim (hother ▸ hmiss') hmiss

/-- An interval without a multiple lies between two neighbouring ones. -/
theorem exists_between_multiples (hi : i.IsProper) {r : ℚ} (hr : 0 < r)
    (h : ∀ s : ℕ, ¬ i.Has (s * r)) : ∃ s : ℕ, s * r ≤ i.low ∧ i.high ≤ (s + 1) * r := by
  have hle : (⌊(i.value : ℚ) / r⌋₊ : ℚ) * r ≤ i.value :=
    (le_div_iff₀ hr).1 (Nat.floor_le (by positivity))
  have hlt : (i.value : ℚ) < (⌊(i.value : ℚ) / r⌋₊ + 1) * r :=
    (div_lt_iff₀ hr).1 (Nat.lt_floor_add_one _)
  refine ⟨⌊(i.value : ℚ) / r⌋₊, not_lt.1 fun hlow => ?_, not_lt.1 fun hhigh => ?_⟩
  · exact h _ (.inl ⟨hlow, hle.trans_lt hi.lt_high⟩)
  · exact h (⌊(i.value : ℚ) / r⌋₊ + 1)
      (.inl (by push_cast; exact ⟨hi.low_lt.trans hlt, hhigh⟩))

/-- The search ends at the first power of ten that has a multiple in the interval, or has tried all
of them in vain. -/
theorem search_cases (hi : i.IsProper) (exponent p : ℤ) (fuel : ℕ) :
    (i.search exponent p fuel = (0, 0) ∧
      ∀ k, p - fuel < k → k ≤ p → ∀ s, ¬ i.Hits exponent k s) ∨
    (∃ t j, i.search exponent p fuel = (t, j) ∧ j ≤ p ∧ i.Hits exponent j t ∧
      ∀ k, j < k → k ≤ p → ∀ s, ¬ i.Hits exponent k s) := by
  induction fuel generalizing p with
  | zero => exact .inl ⟨rfl, fun k hk hkp => by omega⟩
  | succ fuel ih =>
    rw [search]
    rcases multiple?_cases hi exponent p with ⟨t, hfound, ht⟩ | ⟨hnone, hmiss⟩
    · rw [hfound]
      exact .inr ⟨t, p, rfl, le_rfl, ht, fun k hk hkp => by omega⟩
    · rw [hnone]
      rcases ih (p - 1) with ⟨hzero, hrest⟩ | ⟨t, j, hfound, hj, ht, hrest⟩
      · refine .inl ⟨hzero, fun k hk hkp => ?_⟩
        rcases hkp.eq_or_lt with rfl | hlt
        · exact hmiss
        · exact hrest k (by push_cast at hk; omega) (by omega)
      · refine .inr ⟨t, j, hfound, by omega, ht, fun k hk hkp => ?_⟩
        rcases hkp.eq_or_lt with rfl | hlt
        · exact hmiss
        · exact hrest k hk (by omega)

end Interval

/-! ## The first power of ten -/

/-- The magnitude of a double. -/
def magnitude (x : Binary64) : ℚ := x.mantissa * 2 ^ x.exponent

/-- The power of ten that belongs to the number of digits of an integer part. -/
theorem pow_length_bounds {n : ℕ} (hn : 0 < n) {y : ℚ} (hy : n ≤ y) (hy' : y < n + 1) :
    y ≤ 10 ^ (Text.digits n).length ∧ (10 : ℚ) ^ (Text.digits n).length ≤ 10 * y := by
  have hlt : (n : ℚ) + 1 ≤ 10 ^ (Text.digits n).length := by exact_mod_cast Text.lt_pow_length n
  have hle : (10 : ℚ) ^ ((Text.digits n).length - 1) ≤ n := by
    exact_mod_cast Text.pow_length_le hn
  refine ⟨hy'.le.trans hlt, ?_⟩
  rw [← Nat.sub_add_cancel (Text.length_digits_pos n), pow_succ']
  linarith

theorem pow_length_div_bounds {a b : ℕ} (hb : 0 < b) (hle : b ≤ a) :
    (a : ℚ) / b ≤ 10 ^ (Text.digits (a / b)).length ∧
      (10 : ℚ) ^ (Text.digits (a / b)).length ≤ 10 * (a / b) := by
  have hbq : (0 : ℚ) < b := by exact_mod_cast hb
  refine pow_length_bounds (Nat.div_pos hle hb) ?_ ?_
  · rw [le_div_iff₀ hbq]
    exact_mod_cast Nat.div_mul_le_self a b
  · rw [div_lt_iff₀ hbq]
    exact_mod_cast Nat.lt_mul_of_div_lt (Nat.lt_succ_self _) hb

/-- The power of ten that the search begins with is no less than the magnitude, and at most ten
times as large. -/
theorem decimalExponent_spec {x : Binary64} (hm : 0 < x.mantissa) :
    x.magnitude ≤ 10 ^ x.decimalExponent ∧ (10 : ℚ) ^ x.decimalExponent ≤ 10 * x.magnitude := by
  simp only [decimalExponent]
  split
  · rename_i hneg
    have hk : x.exponent = -(x.exponent.natAbs : ℤ) := by omega
    have hmag : x.magnitude = x.mantissa / (pow2 x.exponent.natAbs : ℕ) := by
      rw [magnitude, cast_pow2, ← zpow_natCast, div_eq_mul_inv, ← zpow_neg, ← hk]
    have hd := pow2_pos x.exponent.natAbs
    rw [hmag]
    generalize pow2 x.exponent.natAbs = d at hd ⊢
    split
    · -- below one, the digits of the reciprocal tell the zeros behind the point
      rename_i hlt
      obtain ⟨hup, hdown⟩ := pow_length_div_bounds hm hlt.le
      have hmq : (0 : ℚ) < x.mantissa := by exact_mod_cast hm
      have hdq : (0 : ℚ) < d := by exact_mod_cast hd
      have hpow : (0 : ℚ) < 10 ^ (Text.digits (d / x.mantissa)).length := by positivity
      rw [zpow_sub₀ (by norm_num), zpow_one, zpow_natCast]
      generalize (10 : ℚ) ^ (Text.digits (d / x.mantissa)).length = r at hup hdown hpow ⊢
      rw [div_le_iff₀ hmq] at hup
      rw [← mul_div_assoc, le_div_iff₀ hmq] at hdown
      constructor
      · rw [div_le_div_iff₀ hdq hpow]
        linarith
      · rw [← mul_div_assoc, div_le_div_iff₀ hpow hdq]
        linarith
    · rename_i hge
      rw [zpow_natCast]
      exact pow_length_div_bounds hd (not_lt.1 hge)
  · rename_i hneg
    have hk : x.exponent = (x.exponent.natAbs : ℤ) := by omega
    have hmag : x.magnitude = (x.mantissa * pow2 x.exponent.natAbs : ℕ) := by
      rw [magnitude, Nat.cast_mul, cast_pow2, ← zpow_natCast, ← hk]
    rw [hmag, zpow_natCast]
    exact pow_length_bounds (Nat.mul_pos hm (pow2_pos _)) le_rfl (lt_add_one _)

/-! ## The shortest fraction -/

variable {x : Binary64} {t : ℕ} {p : ℤ}

/-- The fraction `t * 10 ^ p` rounds to the double, but no multiple of a greater power of ten. -/
structure IsShortest (x : Binary64) (t : ℕ) (p : ℤ) : Prop where
  covers : x.Covers (t * 10 ^ p)
  greatest : ∀ k, p < k → ∀ s : ℕ, ¬ x.Covers (s * 10 ^ k)

theorem IsNormal.isProper (hx : x.IsNormal) : x.interval.IsProper where
  low_lt := by
    rw [hx.interval_low, show x.interval.value = 4 * x.mantissa from rfl]
    push_cast
    split <;> linarith
  lt_high := by
    rw [interval_high, show x.interval.value = 4 * x.mantissa from rfl]
    push_cast
    linarith

theorem IsNormal.le_mantissa_cast (hx : x.IsNormal) : (2 : ℚ) ^ 52 ≤ x.mantissa := by
  exact_mod_cast hx.le_mantissa

theorem IsNormal.mantissa_lt_cast (hx : x.IsNormal) : (x.mantissa : ℚ) < 2 ^ 53 := by
  exact_mod_cast hx.mantissa_lt

/-- What rounds to a double differs from it by no more than two quarters of the last place. -/
theorem Covers.bounds {y : ℚ} (h : x.Covers y) (hx : x.IsNormal) :
    4 * (x.mantissa : ℚ) - 2 ≤ y / x.quarter ∧ y / x.quarter ≤ 4 * x.mantissa + 2 := by
  have hlow := Interval.Has.low_le hx.isProper h
  have hhigh := Interval.Has.le_high hx.isProper h
  rw [hx.interval_low] at hlow
  rw [interval_high] at hhigh
  refine ⟨hlow.trans' ?_, hhigh⟩
  split <;> linarith

theorem magnitude_div_quarter (x : Binary64) : x.magnitude / x.quarter = 4 * x.mantissa := by
  rw [div_quarter, magnitude, mul_div_assoc, div_self (by positivity), mul_one]

/-- The neighbours of a fraction that no multiple of a power of ten comes between. -/
theorem exists_around_of_not_covers (hx : x.IsNormal) {k : ℤ}
    (h : ∀ s : ℕ, ¬ x.Covers (s * 10 ^ k)) :
    ∃ s : ℕ, s * (10 ^ k / x.quarter) ≤ x.interval.low ∧
      x.interval.high ≤ (s + 1) * (10 ^ k / x.quarter) := by
  refine Interval.exists_between_multiples hx.isProper (div_pos (by positivity) x.quarter_pos)
    fun s hs => h s ?_
  rw [Covers, mul_div_assoc]
  exact hs

/-- The fraction that is written is the shortest one. -/
theorem isShortest_shortest (hx : x.IsNormal) : x.IsShortest x.shortest.1 x.shortest.2 := by
  have hm : 0 < x.mantissa := Nat.lt_of_lt_of_le (by norm_num) hx.le_mantissa
  have hlower := hx.le_mantissa_cast
  have hupper := hx.mantissa_lt_cast
  have hquarter := x.quarter_pos
  obtain ⟨hmin, hmax⟩ := decimalExponent_spec hm
  rw [shortest, if_neg (by simpa using hm.ne')]
  have hcovers : ∀ (s : ℕ) (k : ℤ), x.Covers (s * 10 ^ k) ↔ x.interval.Hits x.exponent k s :=
    fun s k => by rw [Covers, mul_div_assoc, quarter, Interval.Hits]
  rcases Interval.search_cases hx.isProper x.exponent x.decimalExponent 24 with
    ⟨-, hmiss⟩ | ⟨t, p, hfound, hp, ht, hmiss⟩
  · -- at the last power of ten the multiples are much closer than the ends of the interval
    obtain ⟨s, hlow, hhigh⟩ := exists_around_of_not_covers hx (k := x.decimalExponent - 23)
      fun s => (hcovers s _).not.2 (hmiss _ (by omega) (by omega) s)
    rw [hx.interval_low] at hlow
    rw [interval_high] at hhigh
    have hstep : (10 : ℚ) ^ (x.decimalExponent - 23) / x.quarter ≤ 40 * x.mantissa / 10 ^ 23 := by
      rw [zpow_sub₀ (by norm_num), div_right_comm]
      refine div_le_div_of_nonneg_right ?_ (by positivity)
      rw [div_le_iff₀ hquarter]
      have hmag := (div_eq_iff hquarter.ne').1 x.magnitude_div_quarter
      linarith
    have hsmall : 40 * (x.mantissa : ℚ) / 10 ^ 23 < 1 := by
      rw [div_lt_one (by norm_num)]
      linarith
    split at hlow <;> linarith
  · rw [hfound]
    refine ⟨(hcovers t p).2 ht, fun k hk s => ?_⟩
    rcases le_or_gt k x.decimalExponent with hle | hgt
    · exact (hcovers s k).not.2 (hmiss k hk hle s)
    · intro hs
      obtain ⟨hlow, hhigh⟩ := hs.bounds hx
      rcases Nat.eq_zero_or_pos s with rfl | hpos
      · rw [Nat.cast_zero, zero_mul, zero_div] at hlow
        linarith
      · have hs1 : (1 : ℚ) ≤ s := by exact_mod_cast hpos
        have hten : (10 : ℚ) * 10 ^ x.decimalExponent ≤ 10 ^ k := by
          rw [← zpow_one_add₀ (by norm_num)]
          exact zpow_le_zpow_right₀ (by norm_num) (by omega)
        have hten' : 10 * x.magnitude ≤ s * 10 ^ k := by nlinarith
        have hdiv : 10 * (4 * (x.mantissa : ℚ)) ≤ s * 10 ^ k / x.quarter := by
          rw [← magnitude_div_quarter, ← mul_div_assoc]
          exact div_le_div_of_nonneg_right hten' hquarter.le
        linarith

/-! ## How many digits it has -/

theorem IsShortest.pos (h : x.IsShortest t p) (hx : x.IsNormal) : 0 < t := by
  refine Nat.pos_of_ne_zero fun h0 => ?_
  have hlow := (h.covers.bounds hx).1
  have hm := hx.le_mantissa_cast
  rw [h0, Nat.cast_zero, zero_mul, zero_div] at hlow
  linarith

/-- Doubles are not so small that the exponent of ten would be out of range. -/
theorem IsShortest.lt_exponent (h : x.IsShortest t p) (hx : x.IsNormal) (ht : t < 10 ^ 17) :
    -1092 < p := by
  have hlow := (h.covers.bounds hx).1
  have hm := hx.le_mantissa_cast
  have hone : (1 : ℚ) ≤ t * 10 ^ p / x.quarter := by linarith
  rw [one_le_div x.quarter_pos] at hone
  have htq : (t : ℚ) < 10 ^ 17 := by exact_mod_cast ht
  have hten : (10 : ℚ) ^ (-(1075 : ℕ) : ℤ) ≤ 2 ^ (-(1075 : ℕ) : ℤ) := by
    rw [zpow_neg, zpow_neg, zpow_natCast, zpow_natCast]
    exact inv_anti₀ (by positivity) (pow_le_pow_left₀ (by norm_num) (by norm_num) _)
  have hquarter : (2 : ℚ) ^ (-(1075 : ℕ) : ℤ) ≤ x.quarter := by
    have hexp := hx.lt_exponent
    simp only [minExponent] at hexp
    exact zpow_le_zpow_right₀ (by norm_num) (by push_cast; omega)
  have hpow : (10 : ℚ) ^ (-(1075 : ℕ) : ℤ) < 10 ^ (17 + p) := by
    rw [zpow_add₀ (by norm_num)]
    refine (hten.trans (hquarter.trans hone)).trans_lt ?_
    exact mul_lt_mul_of_pos_right htq (by positivity)
  have := (zpow_lt_zpow_iff_right₀ (by norm_num)).1 hpow
  push_cast at this
  omega

/-- It does not end in a zero. -/
theorem IsShortest.mod_ten_ne_zero (h : x.IsShortest t p) : t % 10 ≠ 0 := by
  intro h0
  refine h.greatest (p + 1) (lt_add_one p) (t / 10) ?_
  have hcast : ((10 * (t / 10) : ℕ) : ℚ) = t := by
    rw [Nat.mul_div_cancel' (Nat.dvd_of_mod_eq_zero h0)]
  have hten : (t : ℚ) * 10 ^ p = (t / 10 : ℕ) * 10 ^ (p + 1) := by
    rw [← hcast, zpow_add_one₀ (by norm_num)]
    push_cast
    ring
  exact hten ▸ h.covers

/-- Seventeen digits are enough. -/
theorem IsShortest.lt (h : x.IsShortest t p) (hx : x.IsNormal) : t < 10 ^ 17 := by
  obtain ⟨s, hlow, hhigh⟩ := exists_around_of_not_covers hx (h.greatest (p + 1) (lt_add_one p))
  have hstep : (10 : ℚ) ^ (p + 1) / x.quarter = 10 * (10 ^ p / x.quarter) := by
    rw [zpow_add_one₀ (by norm_num)]
    ring
  have hpos : (0 : ℚ) < 10 ^ p / x.quarter := div_pos (by positivity) x.quarter_pos
  have ht := h.covers.le_high hx.isProper
  rw [mul_div_assoc] at ht
  rw [hstep] at hlow hhigh
  have hupper := hx.mantissa_lt_cast
  rw [hx.interval_low] at hlow
  rw [interval_high] at hhigh ht
  generalize (10 : ℚ) ^ p / x.quarter = r at hpos hlow hhigh ht
  -- the neighbours among the fractions with a digit less lie around the whole interval
  have hts : (t : ℚ) ≤ 10 * (s + 1) := by nlinarith
  by_contra hge
  have hs : (10 : ℚ) ^ 16 - 1 ≤ s := by
    have hge' : (10 : ℚ) ^ 17 ≤ t := by exact_mod_cast not_lt.1 hge
    linarith
  split at hlow
  · rename_i hm
    have hm' : (x.mantissa : ℚ) = 2 ^ 52 := by exact_mod_cast hm
    nlinarith
  · nlinarith

/-- A fraction of at most fifteen digits is the only one of its length that rounds to the double. -/
theorem IsShortest.eq_of_covers (h : x.IsShortest t p) (hx : x.IsNormal) {m : ℕ} {a : ℤ}
    (hm : m < 10 ^ 15) (hcovers : x.Covers (m * 10 ^ a)) : (t : ℚ) * 10 ^ p = m * 10 ^ a := by
  have hap : a ≤ p := not_lt.1 fun hlt => h.greatest a hlt m hcovers
  obtain ⟨k, rfl⟩ := Int.le.dest hap
  have hsame : (t : ℚ) * 10 ^ (a + k) = (t * 10 ^ k : ℕ) * 10 ^ a := by
    rw [zpow_add₀ (by norm_num), zpow_natCast]
    push_cast
    ring
  rw [hsame]
  have ht := hsame ▸ h.covers
  generalize t * 10 ^ k = n at ht
  obtain ⟨hlow, hhigh⟩ := ht.bounds hx
  obtain ⟨hlow', hhigh'⟩ := hcovers.bounds hx
  have hmantissa := hx.le_mantissa_cast
  have hmq : (m : ℚ) ≤ 10 ^ 15 := by exact_mod_cast hm.le
  have hpos : (0 : ℚ) < 10 ^ a / x.quarter := div_pos (by positivity) x.quarter_pos
  rw [mul_div_assoc] at hlow hhigh hlow' hhigh'
  generalize (10 : ℚ) ^ a / x.quarter = r at hpos hlow hhigh hlow' hhigh'
  -- two of them would be closer to each other than the interval is to zero
  rcases lt_trichotomy n m with hlt | rfl | hlt
  · have hstep : (n : ℚ) + 1 ≤ m := by exact_mod_cast hlt
    nlinarith
  · rfl
  · have hstep : (m : ℚ) + 1 ≤ n := by exact_mod_cast hlt
    nlinarith

end Compliance.Binary64
