import Compliance.Json.Reading
import Compliance.Proofs.Decimal.Text

/-!
# Compliance.Proofs.Json.Number

How the digits of a document become a number.

* `Json.readNumber_append`    — a run of digits is the integer part of a number.
* `Json.significand_of_fits`  — digits that sixty-four bits hold are all kept.
* `Json.significand_lt`, `Json.significand_ne_zero` — the digits of others.
* `Json.readFraction_point`   — what a point and further digits make of it.
-/

namespace Compliance.Json

open Text Decimal

variable {ds whole places rest : List Char} {m n : ℕ}

/-! ## Digits that fit -/

theorem fitsNat64_iff : fitsNat64 n = true ↔ n < 2 ^ 64 := by
  rw [fitsNat64, decide_eq_true_eq]
  omega

theorem takeFitting_cons (n : ℕ) (c : Char) (cs : List Char) :
    takeFitting n (c :: cs) =
      if 10 * n + (c.toNat - '0'.toNat) < 2 ^ 64 then
        takeFitting (10 * n + (c.toNat - '0'.toNat)) cs
      else (n, c :: cs) := by
  have hdigit : natOfDigits [c] = c.toNat - '0'.toNat := by
    simp [natOfDigits, Nat.ofDigitChars_cons]
  simp only [takeFitting, hdigit, fitsNat64_iff]

theorem takeFitting_of_fits (hfit : Nat.ofDigitChars 10 ds n < 2 ^ 64) :
    takeFitting n ds = (Nat.ofDigitChars 10 ds n, []) := by
  induction ds generalizing n with
  | nil => rfl
  | cons c ds ih =>
    rw [Nat.ofDigitChars_cons] at hfit ⊢
    have hle := le_ofDigitChars ds (10 * n + (c.toNat - '0'.toNat))
    rw [takeFitting_cons, if_pos (Nat.lt_of_le_of_lt hle hfit), ih hfit]

theorem takeFitting_lt (hn : n < 2 ^ 64) (ds : List Char) : (takeFitting n ds).1 < 2 ^ 64 := by
  induction ds generalizing n with
  | nil => exact hn
  | cons c ds ih =>
    rw [takeFitting_cons]
    split
    · rename_i hfit
      exact ih hfit
    · exact hn

theorem length_takeFitting_le (n : ℕ) (ds : List Char) :
    (takeFitting n ds).2.length ≤ ds.length := by
  induction ds generalizing n with
  | nil => exact Nat.le_refl _
  | cons c ds ih =>
    rw [takeFitting_cons]
    split
    · exact Nat.le_succ_of_le (ih _)
    · exact Nat.le_refl _

/-- One digit always fits, so that only zeros make a zero. -/
theorem ofDigitChars_of_takeFitting_eq_zero (hds : ∀ c ∈ ds, c.isDigit = true)
    (h : (takeFitting n ds).1 = 0) : Nat.ofDigitChars 10 ds n = 0 := by
  induction ds generalizing n with
  | nil => exact h
  | cons c ds ih =>
    rw [takeFitting_cons] at h
    split at h
    · rw [Nat.ofDigitChars_cons]
      exact ih (fun d hd => hds d (List.mem_cons_of_mem _ hd)) h
    · rename_i hfit
      have hn : n = 0 := h
      have hone := ofDigitChars_lt (List.forall_mem_singleton.2 (hds c List.mem_cons_self)) 0
      rw [Nat.ofDigitChars_cons, Nat.ofDigitChars_nil, List.length_singleton] at hone
      omega

/-! ## Significands -/

theorem significand_of_fits (hfit : natOfDigits (whole ++ places) < 2 ^ 64) :
    significand whole places = (natOfDigits (whole ++ places), -(places.length : ℤ)) := by
  rw [natOfDigits, Nat.ofDigitChars_append] at hfit ⊢
  have hle := le_ofDigitChars places (Nat.ofDigitChars 10 whole 0)
  rw [significand, takeFitting_of_fits (Nat.lt_of_le_of_lt hle hfit)]
  simp [takeFitting_of_fits hfit]

theorem significand_lt (whole places : List Char) : (significand whole places).1 < 2 ^ 64 :=
  takeFitting_lt (takeFitting_lt (by decide) whole) places

theorem significand_ne_zero (hwhole : ∀ c ∈ whole, c.isDigit = true)
    (hplaces : ∀ c ∈ places, c.isDigit = true) (h : natOfDigits (whole ++ places) ≠ 0) :
    (significand whole places).1 ≠ 0 := fun hzero => h <| by
  have hall := ofDigitChars_of_takeFitting_eq_zero hplaces hzero
  have hfront : (takeFitting 0 whole).1 = 0 := by
    have hle := le_ofDigitChars places (takeFitting 0 whole).1
    omega
  rw [hfront] at hall
  rw [natOfDigits, Nat.ofDigitChars_append, ofDigitChars_of_takeFitting_eq_zero hwhole hfront, hall]

theorem natAbs_significand_le (whole places : List Char) :
    (significand whole places).2.natAbs ≤ whole.length + places.length := by
  have hbeyond := length_takeFitting_le 0 whole
  simp only [significand]
  omega

/-! ## Runs of digits -/

/-- Digits are the integer part of a number, unless a zero stands in front of others. -/
theorem readNumber_append (negative : Bool) (hds : ∀ c ∈ ds, c.isDigit = true) (hne : ds ≠ [])
    (hzero : ds.head? = some '0' → ds = ['0'])
    (hrest : ∀ c cs, rest = c :: cs → c.isDigit = false) :
    readNumber negative (ds ++ rest) = readFraction negative ds rest := by
  rw [readNumber, takeDigits_append hds hrest]
  split
  · rename_i h
    cases h
    exact absurd rfl hne
  · rename_i h
    cases h
    exact absurd rfl hne
  · rename_i h
    cases h
    cases hzero rfl
  · rename_i h
    cases h
    rfl

theorem readSigned_of_isDigit {c : Char} {cs : List Char} (hc : c.isDigit = true) :
    readSigned (c :: cs) = readNumber false (c :: cs) := by
  rw [readSigned.eq_def]
  split
  · rename_i h
    cases h
    cases hc
  · rfl

/-- Digits behind the point at the end of a text. -/
theorem readFraction_point (negative : Bool) (ds : List Char)
    (hplaces : ∀ c ∈ places, c.isDigit = true) (hne : places ≠ []) :
    readFraction negative ds ('.' :: places) = realNumber negative ds places 0 [] := by
  have htake : takeDigits (places ++ []) = (places, []) :=
    takeDigits_append hplaces fun _ _ h => nomatch h
  rw [List.append_nil] at htake
  rw [readFraction, htake]
  split
  · rename_i h
    cases h
    exact absurd rfl hne
  all_goals
    rename_i h
    cases h
  rfl

theorem readFraction_of_ne (negative : Bool) (ds : List Char)
    (hrest : ∀ c cs, rest = c :: cs → c ≠ '.' ∧ c ≠ 'e' ∧ c ≠ 'E') :
    readFraction negative ds rest = wholeNumber negative ds rest := by
  cases rest with
  | nil => rfl
  | cons c cs =>
    obtain ⟨hpoint, he, hE⟩ := hrest c cs rfl
    rw [readFraction.eq_def]
    split
    · rename_i h
      cases h
      exact absurd rfl hpoint
    · rename_i h
      cases h
      exact absurd rfl he
    · rename_i h
      cases h
      exact absurd rfl hE
    · rfl

end Compliance.Json
