import Compliance.Proofs.Binary64.Shortest
import Compliance.Proofs.Decimal.Reading

/-!
# Compliance.Proofs.Binary64.Reading

The text of a double is read as the decimal it shows.

* `Binary64.shown`        — the shortest decimal fraction of a double, with its sign.
* `Binary64.plainText_eq` — plain notation as digits around a point.
* `Binary64.denotes_text` — the text of a normal double denotes what it shows.
-/

namespace Compliance.Binary64

open Text Decimal

/-- The number that the text of a double shows: its shortest decimal fraction. -/
def shown (x : Binary64) : ℚ := signed x.negative (x.shortest.1 * 10 ^ x.shortest.2)

/-! ## Plain notation -/

/-- Digits with a point among them, in front of them or behind them, filled up with zeros. -/
theorem plainText_eq {ds : List Char} (hds : ∀ c ∈ ds, c.isDigit = true) (hne : ds ≠ [])
    (hlen : ds.length ≤ 17) {point : ℤ} (hlow : -4 ≤ point) (hhigh : point ≤ 16) :
    ∃ ws ps, plainText ds point = ws ++ '.' :: ps ∧ ws ≠ [] ∧ (∀ c ∈ ws, c.isDigit = true) ∧
      (∀ c ∈ ps, c.isDigit = true) ∧ ws.length + ps.length ≤ maxScale ∧
      (natOfDigits (ws ++ ps) : ℚ) / 10 ^ ps.length =
        natOfDigits ds * 10 ^ (point - ds.length) := by
  have hzeros : ∀ n, ∀ c ∈ List.replicate n '0', c.isDigit = true := fun n c hc => by
    rw [List.eq_of_mem_replicate hc]
    rfl
  simp only [plainText]
  split
  · rename_i hpoint
    refine ⟨['0'], List.replicate point.natAbs '0' ++ ds, rfl, List.cons_ne_nil _ _,
      hzeros 1, forall_mem_append (hzeros _) hds, ?_, ?_⟩
    · simp only [List.length_append, List.length_replicate, List.length_singleton, maxScale]
      omega
    · have hnum : natOfDigits (['0'] ++ (List.replicate point.natAbs '0' ++ ds)) =
          natOfDigits ds := by
        simp [natOfDigits, Nat.ofDigitChars_append, Nat.ofDigitChars_cons,
          Nat.ofDigitChars_replicate_zero]
      have hexp : point - ds.length = -((point.natAbs + ds.length : ℕ) : ℤ) := by omega
      rw [hnum, List.length_append, List.length_replicate, hexp, zpow_neg, zpow_natCast,
        div_eq_mul_inv]
  · split
    · rename_i hpoint hinside
      refine ⟨ds.take point.natAbs, ds.drop point.natAbs, rfl, ?_,
        fun c hc => hds c (List.mem_of_mem_take hc), fun c hc => hds c (List.mem_of_mem_drop hc),
        ?_, ?_⟩
      · rw [← List.length_pos_iff, List.length_take]
        omega
      · simp only [List.length_take, List.length_drop, maxScale]
        omega
      · have hexp : point - ds.length = -((ds.length - point.natAbs : ℕ) : ℤ) := by omega
        rw [List.take_append_drop, List.length_drop, hexp, zpow_neg, zpow_natCast, div_eq_mul_inv]
    · rename_i hpoint hinside
      refine ⟨ds ++ List.replicate (point.natAbs - ds.length) '0', ['0'], by simp, by simp [hne],
        forall_mem_append hds (hzeros _), hzeros 1, ?_, ?_⟩
      · simp only [List.length_append, List.length_replicate, List.length_singleton, maxScale]
        omega
      · have hnum : natOfDigits (ds ++ List.replicate (point.natAbs - ds.length) '0' ++ ['0']) =
            10 * (10 ^ (point.natAbs - ds.length) * natOfDigits ds) := by
          simp [natOfDigits, Nat.ofDigitChars_append, Nat.ofDigitChars_cons,
            Nat.ofDigitChars_replicate_zero]
        have hexp : point - ds.length = ((point.natAbs - ds.length : ℕ) : ℤ) := by omega
        rw [hnum, hexp, zpow_natCast, List.length_singleton]
        push_cast
        ring

theorem toList_text (x : Binary64) : x.text.toList = signText x.negative ++ x.magnitudeText := by
  rw [text, String.toList_ofList]
  cases x.negative <;> rfl

theorem scientificText_eq (ds : List Char) (exponent : ℤ) :
    scientificText ds exponent =
      mantissaText ds ++ 'e' :: (if exponent < 0 then '-' else '+') :: digits exponent.natAbs := by
  match ds with
  | [] => rfl
  | [d] => rfl
  | d :: d' :: ds => rfl

/-- The text of a normal double denotes its shortest decimal fraction. -/
theorem denotes_text {x : Binary64} (hx : x.IsNormal) : Denotes x.text.toList x.shown := by
  have hshortest := isShortest_shortest hx
  have hpos := hshortest.pos hx
  have hlt := hshortest.lt hx
  have hlast := hshortest.mod_ten_ne_zero
  have hsmall := hshortest.lt_exponent hx hlt
  rw [toList_text, magnitudeText, shown]
  generalize x.shortest = shortest at hpos hlt hlast hsmall ⊢
  obtain ⟨t, p⟩ := shortest
  simp only at hpos hlt hlast hsmall ⊢
  have hds : ∀ c ∈ digits t, c.isDigit = true := fun _ h => isDigit_of_mem_digits h
  have hlen : (digits t).length ≤ 17 := (Nat.length_toDigits_le_iff (by decide) (by decide)).2 hlt
  have hhead := pow_length_le hpos
  have hlen0 := length_digits_pos t
  rw [if_neg (by simpa using hpos.ne')]
  split
  · rename_i hplain
    simp only [Bool.and_eq_true, decide_eq_true_eq] at hplain
    obtain ⟨ws, ps, htext, hne, hws, hps, hfit, hvalue⟩ := plainText_eq hds (digits_ne_nil t) hlen
      (by omega : -4 ≤ ((digits t).length : ℤ) + p - 1 + 1) (by omega)
    obtain ⟨d, hd, hdvalue⟩ := exists_ofText?_pointed x.negative hne hws hps hfit
    rw [htext]
    refine denotes_of_ok hd ?_
    rw [hdvalue, hvalue, natOfDigits_digits]
    congr 3
    omega
  · rename_i hscientific
    simp only [Bool.and_eq_true, decide_eq_true_eq, not_and_or] at hscientific
    rw [scientificText_eq]
    have hfit : (digits t).length ≤ maxScale := hlen.trans (by decide)
    split
    · rename_i hneg
      have hp : p = -(((digits t).length - 1 +
          (((digits t).length : ℤ) + p - 1).natAbs : ℕ) : ℤ) := by omega
      have hminus := denotes_minus x.negative hds hfit (by rwa [natOfDigits_digits])
        (by simp only [exponentBound]; omega :
          (digits t).length - 1 + (((digits t).length : ℤ) + p - 1).natAbs < exponentBound)
      rw [natOfDigits_digits, div_eq_mul_inv, ← zpow_natCast, ← zpow_neg, ← hp] at hminus
      exact hminus
    · rename_i hneg
      have hp : p = -(((digits t).length - 1 : ℕ) : ℤ) +
          ((((digits t).length : ℤ) + p - 1).natAbs : ℤ) := by omega
      have hplus := denotes_plus x.negative (digits_ne_nil t) hds hfit
        (by rwa [natOfDigits_digits]) (((digits t).length : ℤ) + p - 1).natAbs
      rw [natOfDigits_digits, div_eq_mul_inv, mul_assoc, ← zpow_natCast, ← zpow_natCast,
        ← zpow_neg, ← zpow_add₀ (by norm_num), ← hp] at hplus
      exact hplus

end Compliance.Binary64
