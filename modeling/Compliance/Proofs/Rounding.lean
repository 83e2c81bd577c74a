import Compliance.Rounding
import Mathlib.Algebra.Order.Field.Basic
import Mathlib.Algebra.Order.Field.Rat
import Mathlib.Algebra.Ring.Parity
import Mathlib.Tactic.FieldSimp
import Mathlib.Tactic.Linarith

/-!
# Compliance.Proofs.Rounding

Rounding to the nearest natural number, a half to the even one.

* `IsHalfEven`               — a natural number is what a rational one is rounded to.
* `isHalfEven_divHalfEven`   — the rounded quotient is.
* `IsHalfEven.mono`          — rounding keeps the order.
-/

namespace Compliance

/-- The natural number nearest to `x`; of two that are equally near it is the even one. -/
structure IsHalfEven (x : ℚ) (r : ℕ) : Prop where
  le_add : x ≤ r + 1 / 2
  sub_le : r - 1 / 2 ≤ x
  even : x = r + 1 / 2 ∨ x = r - 1 / 2 → Even r

theorem isHalfEven_divHalfEven (n : ℕ) {d : ℕ} (hd : 0 < d) :
    IsHalfEven (n / d) (divHalfEven n d) := by
  have hdq : (0 : ℚ) < d := by exact_mod_cast hd
  have hsplit : (n : ℚ) / d = (n / d : ℕ) + (n % d : ℕ) / d := by
    have hn : ((d * (n / d) + n % d : ℕ) : ℚ) = n := by rw [Nat.div_add_mod]
    push_cast at hn
    rw [← hn]
    field_simp
  have hrest : (0 : ℚ) ≤ (n % d : ℕ) / d := div_nonneg (Nat.cast_nonneg _) hdq.le
  have hless : ((n % d : ℕ) : ℚ) / d < 1 := (div_lt_one hdq).2 (by exact_mod_cast n.mod_lt hd)
  have hhalf : 2 * (n % d) < d ↔ ((n % d : ℕ) : ℚ) / d < 1 / 2 := by
    rw [div_lt_div_iff₀ hdq two_pos, mul_comm, one_mul]
    exact_mod_cast Iff.rfl
  have htie : 2 * (n % d) = d ↔ ((n % d : ℕ) : ℚ) / d = 1 / 2 := by
    rw [div_eq_div_iff hdq.ne' two_ne_zero, mul_comm, one_mul]
    exact_mod_cast Iff.rfl
  rw [hsplit, divHalfEven]
  generalize ((n % d : ℕ) : ℚ) / d = f at hrest hless hhalf htie
  simp only [Bool.or_eq_true, decide_eq_true_eq, Bool.and_eq_true, beq_iff_eq, hhalf, htie]
  split
  · rename_i hdown
    refine ⟨?_, by linarith, fun h => ?_⟩
    · rcases hdown with h | h <;> linarith
    · rcases hdown with hlt | heven
      · rcases h with h | h <;> linarith
      · exact Nat.even_iff.2 heven.2
  · rename_i hup
    rw [not_or, not_and, not_lt] at hup
    have hnext : ((n / d + 1 : ℕ) : ℚ) = (n / d : ℕ) + 1 := Nat.cast_succ _
    refine ⟨by linarith, by linarith, fun h => ?_⟩
    rcases h with h | h
    · linarith
    · rw [Nat.even_add_one, Nat.even_iff]
      exact hup.2 (by linarith)

theorem IsHalfEven.le_of_sub_lt {x : ℚ} {m r : ℕ} (h : IsHalfEven x r) (hm : (m : ℚ) - 1 / 2 < x) :
    m ≤ r := by
  by_contra hlt
  have hstep : (r : ℚ) + 1 ≤ m := by exact_mod_cast Nat.lt_of_not_le hlt
  linarith [h.le_add]

theorem IsHalfEven.mono {x y : ℚ} {r s : ℕ} (hx : IsHalfEven x r) (hy : IsHalfEven y s)
    (h : x ≤ y) : r ≤ s := by
  by_contra hlt
  have hstep : (s : ℚ) + 1 ≤ r := by exact_mod_cast Nat.lt_of_not_le hlt
  -- both lie half way between the two numbers, of which only one is even
  have hxr : x = r - 1 / 2 := by linarith [hx.sub_le, hy.le_add]
  have hys : y = s + 1 / 2 := by linarith [hx.sub_le, hy.le_add]
  have hrs : (r : ℚ) = s + 1 := by linarith
  have hr : Even r := hx.even (.inr hxr)
  have hs : Even s := hy.even (.inl hys)
  have heq : r = s + 1 := by exact_mod_cast hrs
  rw [heq, Nat.even_add_one] at hr
  exact hr hs

theorem isHalfEven_natCast (n : ℕ) : IsHalfEven n n where
  le_add := by linarith
  sub_le := by linarith
  even h := by rcases h with h | h <;> linarith

theorem IsHalfEven.eq_of_natCast {n r : ℕ} (h : IsHalfEven n r) : r = n :=
  Nat.le_antisymm (h.mono (isHalfEven_natCast n) le_rfl) ((isHalfEven_natCast n).mono h le_rfl)

@[simp] theorem divHalfEven_one (n : ℕ) : divHalfEven n 1 = n := by
  have h := isHalfEven_divHalfEven n Nat.one_pos
  rw [Nat.cast_one, div_one] at h
  exact h.eq_of_natCast

end Compliance
