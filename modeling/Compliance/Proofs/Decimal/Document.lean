import Compliance.Context
import Compliance.Proofs.Binary64.Reading
import Compliance.Proofs.Binary64.Scaling
import Compliance.Proofs.Json.Number

/-!
# Compliance.Proofs.Decimal.Document

Which numbers are read back from the documents that show them.

* `Decimal.readDouble?`         — the double that a document makes of the text of a number.
* `Decimal.IsCarried`           — the document of a number shows no other one.
* `Decimal.ofJson_toJson_iff`   — just these numbers are read back.
* `Decimal.isCarried_of_digits` — numbers of at most fifteen digits, twenty-two of them places.
* `Decimal.IsCarried.digits`    — numbers of more than seventeen digits are not, apart from
  integers of sixty-four bits.
* `Decimal.toJson_eq_iff`       — when two numbers share a document.
-/

namespace Compliance.Decimal

variable {d e : Decimal}

/-- An integer of sixty-four bits, signed or unsigned. -/
def IsWord (d : Decimal) : Prop := ∃ z : ℤ, d.value = z ∧ -2 ^ 63 ≤ z ∧ z < 2 ^ 64

/-- The double that the text of a decimal is read as: of its digits those that sixty-four bits hold,
times a power of ten. -/
def readDouble? (d : Decimal) : Option Binary64 :=
  let parts := Json.significand d.wholeDigits d.placeDigits
  Binary64.ofParts? (d.mantissa < 0) parts.1 parts.2

/-- The document of the number shows no other number: it is an integer of sixty-four bits, or the
shortest decimal fraction of the double that it is read as. -/
def IsCarried (d : Decimal) : Prop :=
  d.IsWord ∨ ∃ x, d.normalize.readDouble? = some x ∧ x.shown = d.value

/-! ## Reading the text -/

theorem readSigned_text (d : Decimal) : Json.readSigned d.text.toList =
    Json.readNumber (d.mantissa < 0) (d.wholeDigits ++ d.placesText) := by
  rw [text_eq]
  by_cases hneg : d.mantissa < 0
  · rw [if_pos hneg, decide_eq_true hneg]
    rfl
  · rw [if_neg hneg, decide_eq_false hneg, List.nil_append]
    cases hw : d.wholeDigits with
    | nil => exact absurd hw (wholeDigits_ne_nil d)
    | cons c cs =>
      have hc : c ∈ d.wholeDigits := hw ▸ List.mem_cons_self
      exact Json.readSigned_of_isDigit (isDigit_of_mem_wholeDigits hc)

theorem realNumber_eq (d : Decimal) :
    Json.realNumber (d.mantissa < 0) d.wholeDigits d.placeDigits 0 [] =
      (d.readDouble?.elim (Json.fail .numberTooLarge []) fun x => .ok (.number (.real x), [])) := by
  simp only [Json.realNumber, readDouble?, Int.add_zero]
  split
  · rename_i h
    rw [h]
    rfl
  · rename_i h
    rw [h]
    rfl

/-- The places of a decimal make it a fraction. -/
theorem readNumber_of_scale {d : Decimal} (h : d.scale ≠ 0) :
    Json.readNumber (d.mantissa < 0) (d.wholeDigits ++ d.placesText) =
      Json.realNumber (d.mantissa < 0) d.wholeDigits d.placeDigits 0 [] := by
  have hplaces : d.placesText = '.' :: d.placeDigits := if_neg (by simpa using h)
  have hne : d.placeDigits ≠ [] := by
    rw [← List.length_pos_iff, length_placeDigits]
    exact Nat.pos_of_ne_zero h
  have hpoint : ∀ c cs, d.placesText = c :: cs → c.isDigit = false := fun c cs heq => by
    rw [hplaces] at heq
    cases heq
    rfl
  rw [Json.readNumber_append _ (fun _ h => isDigit_of_mem_wholeDigits h) (wholeDigits_ne_nil d)
    wholeDigits_of_head?_zero hpoint, hplaces,
    Json.readFraction_point _ _ (fun _ h => isDigit_of_mem_placeDigits h) hne]

/-- Without places it is an integer, if that fits. -/
theorem readNumber_of_not_scale {d : Decimal} (h : d.scale = 0) :
    Json.readNumber (d.mantissa < 0) (d.wholeDigits ++ d.placesText) =
      Json.wholeNumber (d.mantissa < 0) d.wholeDigits [] := by
  have hplaces : d.placesText = [] := if_pos (by simpa using h)
  rw [Json.readNumber_append _ (fun _ h => isDigit_of_mem_wholeDigits h) (wholeDigits_ne_nil d)
    wholeDigits_of_head?_zero (by simp [hplaces]), hplaces, Json.readFraction_of_ne _ _ (by simp)]

theorem wholeNumber_eq {d : Decimal} (h : d.scale = 0) :
    Json.wholeNumber (d.mantissa < 0) d.wholeDigits [] =
      if Text.fitsInt64 d.mantissa ∨ 0 ≤ d.mantissa ∧ Text.fitsNat64 d.mantissa.toNat then
        .ok (.ofInt d.mantissa, [])
      else Json.realNumber (d.mantissa < 0) d.wholeDigits d.placeDigits 0 [] := by
  have hnil : d.placeDigits = [] := List.eq_nil_of_length_eq_zero (by rw [length_placeDigits, h])
  have hvalue : Text.natOfDigits d.wholeDigits = d.mantissa.natAbs := by
    rw [← natOfDigits_append, hnil, List.append_nil]
  rw [Json.wholeNumber, hvalue, hnil]
  by_cases hneg : d.mantissa < 0
  · have habs : -(d.mantissa.natAbs : ℤ) = d.mantissa := by omega
    have hne : d.mantissa ≠ 0 := by omega
    simp only [hneg, decide_true, Bool.not_true, Bool.false_and, Bool.false_eq_true, ↓reduceIte,
      habs, bne_iff_ne, ne_eq, Int.natAbs_eq_zero, hne, not_false_eq_true, Bool.true_and,
      Int.not_le.2 hneg, false_and, or_false, Bool.and_eq_true, true_and]
    rfl
  · have hnat : d.mantissa.toNat = d.mantissa.natAbs := by omega
    have habs : (d.mantissa.natAbs : ℤ) = d.mantissa := by omega
    have hfits : Text.fitsInt64 d.mantissa = true → Text.fitsNat64 d.mantissa.natAbs = true := by
      simp only [Text.fitsInt64, Text.fitsNat64, Bool.and_eq_true, decide_eq_true_eq]
      omega
    have hiff : Text.fitsInt64 d.mantissa = true ∨
        0 ≤ d.mantissa ∧ Text.fitsNat64 d.mantissa.natAbs = true ↔
        Text.fitsNat64 d.mantissa.natAbs = true :=
      ⟨fun h => h.elim hfits And.right, fun h => .inr ⟨not_lt.1 hneg, h⟩⟩
    simp only [hneg, hnat, habs, hiff, decide_false, Bool.not_false, Bool.true_and, Bool.false_and,
      Bool.false_eq_true, ↓reduceIte]
    rfl

/-! ## Integers of sixty-four bits -/

/-- What the document of a decimal asks first. -/
theorem isWord_iff : d.IsWord ↔ d.normalize.scale = 0 ∧
    (Text.fitsInt64 d.normalize.mantissa = true ∨
      0 ≤ d.normalize.mantissa ∧ Text.fitsNat64 d.normalize.mantissa.toNat = true) := by
  have hvalue : d.normalize.scale = 0 → d.value = d.normalize.mantissa := fun h => by
    rw [← value_normalize, value, h, pow_zero, div_one]
  constructor
  · rintro ⟨z, hz, hlow, hhigh⟩
    have hscale : d.normalize.scale = 0 :=
      Nat.le_zero.1 (normalize_scale_le (by rw [hz, pow_zero, div_one]))
    have hm : d.normalize.mantissa = z := by
      rw [hvalue hscale] at hz
      exact_mod_cast hz
    refine ⟨hscale, ?_⟩
    simp only [Text.fitsInt64, Text.fitsNat64, hm, Bool.and_eq_true, decide_eq_true_eq]
    omega
  · rintro ⟨hscale, hfits⟩
    refine ⟨_, hvalue hscale, ?_⟩
    simp only [Text.fitsInt64, Text.fitsNat64, Bool.and_eq_true, decide_eq_true_eq] at hfits
    omega

theorem not_isWord {n : ℕ} (h : d.value = n) (hn : 2 ^ 64 ≤ n) : ¬ d.IsWord := by
  rintro ⟨z, hz, -, hlt⟩
  rw [h] at hz
  have hnz : (n : ℤ) = z := by exact_mod_cast hz
  omega

theorem toJson_of_isWord (h : d.IsWord) : d.toJson = .ofInt d.normalize.mantissa := by
  obtain ⟨hscale, hfits⟩ := isWord_iff.1 h
  rw [toJson]
  split
  · rfl
  · -- beyond the signed integers they are read from their text
    rw [Json.Number.ofText?, readSigned_text, readNumber_of_not_scale hscale, wholeNumber_eq hscale,
      if_pos hfits]
    rfl

/-- A decimal other than zero is read as a normal double. It is the nearest one if neither its
digits nor their power of ten have to be rounded. -/
theorem readDouble?_spec (h : d.mantissa ≠ 0) :
    ∃ x, d.readDouble? = some x ∧ x.negative = decide (d.mantissa < 0) ∧ x.IsNormal ∧
      (d.mantissa.natAbs < 2 ^ 53 → d.scale ≤ 22 → x.Covers |d.value|) := by
  have hdigits : Text.natOfDigits (d.wholeDigits ++ d.placeDigits) ≠ 0 := by
    rw [natOfDigits_append]
    exact Int.natAbs_ne_zero.2 h
  have hpos := Json.significand_ne_zero (fun _ h => isDigit_of_mem_wholeDigits h)
    (fun _ h => isDigit_of_mem_placeDigits h) hdigits
  have hexponent := Json.natAbs_significand_le d.wholeDigits d.placeDigits
  have hlength := d.length_digits_le
  obtain ⟨x, hx, hsign, hnormal, hcovers⟩ := Binary64.ofParts?_spec (d.mantissa < 0)
    (Nat.pos_of_ne_zero hpos) (Json.significand_lt d.wholeDigits d.placeDigits)
    (by omega : (Json.significand d.wholeDigits d.placeDigits).2.natAbs ≤ 40)
  refine ⟨x, hx, hsign, hnormal, fun hsmall hscale => ?_⟩
  rw [← natOfDigits_append] at hsmall
  rw [Json.significand_of_fits (hsmall.trans (by norm_num)), length_placeDigits] at hcovers
  rw [abs_value, cast_pow10, ← natOfDigits_append]
  simpa using hcovers hsmall (by omega) (by omega)

/-- Every other number is shown as the double that its text is read as. -/
theorem exists_toJson_of_not_isWord (h : ¬ d.IsWord) :
    ∃ x, d.normalize.readDouble? = some x ∧ d.toJson = .number (.real x) ∧ x.IsNormal ∧
      x.negative = decide (d.value < 0) ∧
      (d.normalize.mantissa.natAbs < 2 ^ 53 → d.normalize.scale ≤ 22 → x.Covers |d.value|) := by
  have hm : d.normalize.mantissa ≠ 0 := fun h0 => h ⟨0, by
    rw [← value_normalize, value, h0, Int.cast_zero, zero_div], by norm_num, by norm_num⟩
  obtain ⟨x, hx, hsign, hnormal, hcovers⟩ := readDouble?_spec hm
  rw [value_normalize] at hcovers
  refine ⟨x, hx, ?_, hnormal, ?_, hcovers⟩
  · rw [isWord_iff] at h
    have hreal : Json.readNumber (d.normalize.mantissa < 0)
        (d.normalize.wholeDigits ++ d.normalize.placesText) = .ok (.number (.real x), []) := by
      by_cases hscale : d.normalize.scale = 0
      · rw [readNumber_of_not_scale hscale, wholeNumber_eq hscale,
          if_neg fun hfits => h ⟨hscale, hfits⟩, realNumber_eq, hx]
        rfl
      · rw [readNumber_of_scale hscale, realNumber_eq, hx]
        rfl
    have hsigned : ¬ (d.normalize.scale == 0 && Text.fitsInt64 d.normalize.mantissa) = true := by
      rw [Bool.and_eq_true, beq_iff_eq]
      exact fun hfits => h ⟨hfits.1, .inl hfits.2⟩
    simp only [toJson, hsigned, Json.Number.ofText?, readSigned_text, hreal, Bool.false_eq_true,
      ↓reduceIte]
  · have hneg : d.normalize.mantissa < 0 ↔ d.value < 0 := by
      rw [← value_normalize, value, div_lt_iff₀ (by positivity), zero_mul]
      exact_mod_cast Iff.rfl
    rw [hsign, decide_eq_decide.2 hneg]

/-- A number is read back from its document, by value, if the document shows no other number. -/
theorem ofJson_toJson_iff (d : Decimal) :
    (∃ e, Value.ofJson d.toJson = .ok (.number e) ∧ (e == d) = true) ↔ d.IsCarried := by
  by_cases hword : d.IsWord
  · refine iff_of_true ?_ (.inl hword)
    obtain ⟨hscale, -⟩ := isWord_iff.1 hword
    have hfit : d.normalize.mantissa.natAbs < bound ∧ 0 ≤ maxScale :=
      ⟨d.normalize.mantissa_lt, Nat.zero_le _⟩
    refine ⟨⟨d.normalize.mantissa, 0, hfit.1, hfit.2⟩, ?_, ?_⟩
    · rw [toJson_of_isWord hword]
      simp only [Json.ofInt, Value.ofJson, ofJsonNumber, ofInt?, ofParts?, dif_pos hfit]
      rfl
    · rw [beq_iff, ← value_normalize d, value, value, hscale]
  · obtain ⟨x, hx, hjson, hnormal, -⟩ := exists_toJson_of_not_isWord hword
    have hdenotes := Binary64.denotes_text hnormal
    have hread : ∀ e, Value.ofJson d.toJson = .ok (.number e) ↔
        ofText? x.text.toList = .ok e := fun e => by
      rw [hjson, Value.ofJson, ofJsonNumber]
      cases ofText? x.text.toList <;> simp [Except.map]
    simp only [hread, beq_iff]
    constructor
    · rintro ⟨e, he, hvalue⟩
      exact .inr ⟨x, hx, by rw [← hdenotes.value_eq he, hvalue]⟩
    · rintro (hcarried | ⟨y, hy, hshown⟩)
      · exact absurd hcarried hword
      · rw [hx] at hy
        cases hy
        obtain ⟨e, he⟩ := hdenotes.exists_ok hshown.symm
        exact ⟨e, he, by rw [hdenotes.value_eq he, hshown]⟩

/-- The number of digits decides, up to fifteen of them and twenty-two places. -/
theorem isCarried_of_digits {m k : ℕ} (hm : m < 10 ^ 15) (hk : k ≤ 22)
    (h : |d.value| = m / 10 ^ k) : d.IsCarried := by
  by_cases hword : d.IsWord
  · exact .inl hword
  · obtain ⟨x, hx, -, hnormal, hsign, hcovers⟩ := exists_toJson_of_not_isWord hword
    obtain ⟨hscale, hmantissa⟩ := normalize_le_of_abs_value_eq h
    have hcovers := hcovers (by omega) (hscale.trans hk)
    have hpower : |d.value| = m * 10 ^ (-k : ℤ) := by rw [h, zpow_neg, zpow_natCast, div_eq_mul_inv]
    have heq := (Binary64.isShortest_shortest hnormal).eq_of_covers hnormal hm (hpower ▸ hcovers)
    refine .inr ⟨x, hx, ?_⟩
    rw [Binary64.shown, heq, ← hpower, hsign, signed_abs]

/-- Numbers of more than seventeen digits are lost. -/
theorem IsCarried.digits (h : d.IsCarried) :
    d.IsWord ∨ ∃ (m : ℕ) (a : ℤ), m < 10 ^ 17 ∧ |d.value| = m * 10 ^ a := by
  by_cases hword : d.IsWord
  · exact .inl hword
  · obtain ⟨x, hx, -, hnormal, -⟩ := exists_toJson_of_not_isWord hword
    have hshortest := Binary64.isShortest_shortest hnormal
    rcases h with h | ⟨y, hy, hshown⟩
    · exact .inl h
    · rw [hx] at hy
      cases hy
      refine .inr ⟨x.shortest.1, x.shortest.2, hshortest.lt hnormal, ?_⟩
      rw [← hshown, Binary64.shown, abs_signed _ (by positivity)]

/-- A number that does not end in zero needs all of its digits. -/
theorem le_of_eq_mul_zpow {n m : ℕ} {a : ℤ} (h : (n : ℚ) = m * 10 ^ a) (hlast : n % 10 ≠ 0) :
    n ≤ m := by
  cases a with
  | ofNat k =>
    rw [Int.ofNat_eq_natCast, zpow_natCast] at h
    have hnat : n = m * 10 ^ k := by exact_mod_cast h
    cases k with
    | zero => exact (hnat.trans (Nat.mul_one m)).le
    | succ k =>
      rw [Nat.pow_succ, ← Nat.mul_assoc] at hnat
      omega
  | negSucc k =>
    rw [zpow_negSucc, ← div_eq_mul_inv, eq_div_iff (by positivity)] at h
    have hnat : n * 10 ^ (k + 1) = m := by exact_mod_cast h
    exact hnat ▸ Nat.le_mul_of_pos_right n (Nat.pow_pos (by decide))

/-- Different numbers have different documents if both are carried. -/
theorem IsCarried.eq_of_toJson_eq (hd : d.IsCarried) (he : e.IsCarried)
    (h : d.toJson = e.toJson) : (d == e) = true := by
  obtain ⟨d', hd', hdvalue⟩ := (ofJson_toJson_iff d).2 hd
  obtain ⟨e', he', hevalue⟩ := (ofJson_toJson_iff e).2 he
  rw [h, he'] at hd'
  cases hd'
  rw [beq_iff] at hdvalue hevalue ⊢
  rw [← hdvalue, hevalue]

/-- Numbers that are no integers of sixty-four bits share a document if they share a double. -/
theorem toJson_eq_iff : d.toJson = e.toJson ↔
    (d == e) = true ∨
      ¬ d.IsWord ∧ ¬ e.IsWord ∧ d.normalize.readDouble? = e.normalize.readDouble? := by
  constructor
  · intro h
    by_cases hd : d.IsWord
    · by_cases he : e.IsWord
      · exact .inl (IsCarried.eq_of_toJson_eq (.inl hd) (.inl he) h)
      · obtain ⟨y, -, hy, -⟩ := exists_toJson_of_not_isWord he
        rw [toJson_of_isWord hd, hy] at h
        cases h
    · obtain ⟨x, hx, hjson, -⟩ := exists_toJson_of_not_isWord hd
      by_cases he : e.IsWord
      · rw [hjson, toJson_of_isWord he] at h
        cases h
      · obtain ⟨y, hy, hjson', -⟩ := exists_toJson_of_not_isWord he
        rw [hjson, hjson'] at h
        cases h
        exact .inr ⟨hd, he, hx.trans hy.symm⟩
  · rintro (heq | ⟨hd, he, h⟩)
    · have hnormal := normalize_eq_of_value_eq (beq_iff.1 heq)
      simp only [toJson, hnormal]
    · obtain ⟨x, hx, hjson, -⟩ := exists_toJson_of_not_isWord hd
      obtain ⟨y, hy, hjson', -⟩ := exists_toJson_of_not_isWord he
      rw [hx, hy] at h
      cases h
      rw [hjson, hjson']

end Compliance.Decimal
