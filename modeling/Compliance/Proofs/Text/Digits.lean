import Compliance.Text.Digits
import Mathlib.Algebra.Group.Nat.Defs
import Mathlib.Data.List.TakeDrop

/-!
# Compliance.Proofs.Text.Digits

Numbers are read back from the digits they are written with.

* `natOfDigits_digits`, `natOfDigits_padded` — the value of written digits.
* `length_padded`, `pow_length_le`           — how many there are.
* `natOfDigits_lt`                           — a bound of what a run of digits denotes.
* `intOfText?_intDigits`                     — integers with their sign.
* `digits_of_head?_zero`                     — no zeros stand in front.
* `takeDigits_append`                        — where a run of digits ends.
-/

namespace Compliance.Text

theorem isDigit_of_mem_digits {n : Nat} {c : Char} (h : c ∈ digits n) : c.isDigit = true :=
  Nat.isDigit_of_mem_toDigits (by decide) (by decide) h

theorem isDigit_of_mem_padded {width n : Nat} {c : Char} (h : c ∈ padded width n) :
    c.isDigit = true := by
  rcases List.mem_append.1 h with h | h
  · rw [List.eq_of_mem_replicate h]
    rfl
  · exact isDigit_of_mem_digits h

theorem digits_ne_nil (n : Nat) : digits n ≠ [] := Nat.toDigits_ne_nil

@[simp] theorem natOfDigits_digits (n : Nat) : natOfDigits (digits n) = n :=
  Nat.ofDigitChars_ten_toDigits

@[simp] theorem natOfDigits_padded (width n : Nat) : natOfDigits (padded width n) = n := by
  rw [natOfDigits, padded, Nat.ofDigitChars_append, Nat.ofDigitChars_replicate_zero, Nat.mul_zero]
  exact natOfDigits_digits n

theorem length_digits_pos (n : Nat) : 0 < (digits n).length :=
  List.length_pos_iff.2 (digits_ne_nil n)

/-- A number is less than the power of ten with as many zeros as it has digits. -/
theorem lt_pow_length (n : Nat) : n < 10 ^ (digits n).length :=
  (Nat.length_toDigits_le_iff (by decide) (length_digits_pos n)).1 (Nat.le_refl _)

theorem pow_length_le {n : Nat} (hn : 0 < n) : 10 ^ ((digits n).length - 1) ≤ n := by
  rcases Nat.eq_or_lt_of_le (length_digits_pos n) with h | h
  · rw [← h]
    exact hn
  · refine Nat.le_of_not_lt fun hlt => ?_
    have hle : (digits n).length ≤ (digits n).length - 1 :=
      (Nat.length_toDigits_le_iff (by decide) (by omega)).2 hlt
    omega

/-- A number below a power of ten is written with as many digits as that has zeros. -/
theorem length_padded {width n : Nat} (hw : 0 < width) (hn : n < 10 ^ width) :
    (padded width n).length = width := by
  have hlen : (digits n).length ≤ width := (Nat.length_toDigits_le_iff (by decide) hw).2 hn
  rw [padded, List.length_append, List.length_replicate]
  omega

theorem le_length_padded (width n : Nat) : width ≤ (padded width n).length := by
  rw [padded, List.length_append, List.length_replicate]
  omega

theorem ofDigitChars_lt {ds : List Char} (h : ∀ c ∈ ds, c.isDigit = true) (m : Nat) :
    Nat.ofDigitChars 10 ds m < 10 ^ ds.length * (m + 1) := by
  induction ds generalizing m with
  | nil => simp
  | cons c ds ih =>
    have hc : c.toNat - '0'.toNat ≤ 9 := by
      have hdigit := h c List.mem_cons_self
      simp only [Char.isDigit, ge_iff_le, Bool.and_eq_true, decide_eq_true_eq] at hdigit
      have hle : c.toNat ≤ 57 := hdigit.2
      show c.toNat - 48 ≤ 9
      omega
    have hrest := ih (fun d hd => h d (List.mem_cons_of_mem c hd)) (10 * m + (c.toNat - '0'.toNat))
    rw [Nat.ofDigitChars_cons]
    refine Nat.lt_of_lt_of_le hrest ?_
    rw [List.length_cons, Nat.pow_succ, Nat.mul_assoc]
    exact Nat.mul_le_mul_left _ (by omega)

theorem natOfDigits_lt {ds : List Char} (h : ∀ c ∈ ds, c.isDigit = true) :
    natOfDigits ds < 10 ^ ds.length := by
  have hlt := ofDigitChars_lt h 0
  rwa [Nat.zero_add, Nat.mul_one] at hlt

theorem unsigned?_digits (n : Nat) : unsigned? (digits n) = some n := by
  have hall : (digits n).all Char.isDigit = true :=
    List.all_eq_true.2 fun _ h => isDigit_of_mem_digits h
  simp [unsigned?, hall, digits_ne_nil]

/-- A digit is no sign. -/
theorem ne_sign_of_isDigit {c : Char} (h : c.isDigit = true) : c ≠ '-' ∧ c ≠ '+' := by
  constructor <;> rintro rfl <;> exact absurd h (by decide)

theorem digits_eq_cons (n : Nat) :
    ∃ (c : Char) (cs : List Char), digits n = c :: cs ∧ c.isDigit = true := by
  cases h : digits n with
  | nil => exact absurd h (digits_ne_nil n)
  | cons c cs =>
    have hc : c ∈ digits n := by rw [h]; exact List.mem_cons_self
    exact ⟨c, cs, rfl, isDigit_of_mem_digits hc⟩

/-- A number is written without zeros in front. -/
theorem digits_of_head?_zero {n : Nat} (h : (digits n).head? = some '0') : digits n = ['0'] := by
  rcases Nat.eq_zero_or_pos n with rfl | hn
  · rfl
  · have hlow := pow_length_le hn
    have hvalue := natOfDigits_digits n
    cases hds : digits n with
    | nil => exact absurd hds (digits_ne_nil n)
    | cons c cs =>
      rw [hds] at h hlow hvalue
      cases h
      have hlt : natOfDigits cs < 10 ^ cs.length :=
        natOfDigits_lt fun c hc => isDigit_of_mem_digits (hds ▸ List.mem_cons_of_mem _ hc)
      rw [natOfDigits, Nat.ofDigitChars_cons] at hvalue
      rw [List.length_cons, Nat.add_sub_cancel] at hlow
      exact absurd (hvalue ▸ hlt) (Nat.not_lt.2 hlow)

theorem intOfText?_intDigits (z : Int) : intOfText? (intDigits z) = some z := by
  cases z with
  | ofNat n =>
    obtain ⟨c, cs, hcs, hc⟩ := digits_eq_cons n
    obtain ⟨hminus, hplus⟩ := ne_sign_of_isDigit hc
    have hread : unsigned? (c :: cs) = some n := hcs ▸ unsigned?_digits n
    simp [intDigits, hcs, intOfText?, natOfText?, dropPlus, hminus, hplus, hread]
  | negSucc n => simp [intDigits, intOfText?, unsigned?_digits, Int.negSucc_eq]

/-! ## Runs of digits -/

theorem takeWhile_isDigit_append {ds rest : List Char} (h : ∀ c ∈ ds, c.isDigit = true)
    (hrest : ∀ c cs, rest = c :: cs → c.isDigit = false) :
    (ds ++ rest).takeWhile Char.isDigit = ds := by
  rw [List.takeWhile_append_of_pos h]
  cases rest with
  | nil => simp
  | cons c cs => simp [hrest c cs rfl]

theorem dropWhile_isDigit_append {ds rest : List Char} (h : ∀ c ∈ ds, c.isDigit = true)
    (hrest : ∀ c cs, rest = c :: cs → c.isDigit = false) :
    (ds ++ rest).dropWhile Char.isDigit = rest := by
  rw [List.dropWhile_append_of_pos h]
  cases rest with
  | nil => rfl
  | cons c cs => simp [hrest c cs rfl]

theorem takeDigits_append {ds rest : List Char} (h : ∀ c ∈ ds, c.isDigit = true)
    (hrest : ∀ c cs, rest = c :: cs → c.isDigit = false) :
    takeDigits (ds ++ rest) = (ds, rest) := by
  rw [takeDigits, List.span_eq_takeWhile_dropWhile, takeWhile_isDigit_append h hrest,
    dropWhile_isDigit_append h hrest]

end Compliance.Text
