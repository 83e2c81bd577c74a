import Compliance.Decimal.Reading
import Compliance.Proofs.Text.Digits

/-!
# Compliance.Proofs.Decimal.Text

Decimals are read back from their text, with their scale.

* `text_eq`             — the text as a sign, a whole part and places.
* `readPlain_digits`    — digits are read as the number they denote, as long as it fits.
* `ofPlain?_text`       — reading the text of a decimal gives the decimal.
* `ofPlain?_intDigits`  — the text of an integer of sixty-four bits is a decimal, too.
-/

namespace Compliance.Decimal

open Text

/-! ## The shape of the text -/

/-- The digits in front of the point. -/
def wholeDigits (d : Decimal) : List Char :=
  let ds := padded (d.scale + 1) d.mantissa.natAbs
  ds.take (ds.length - d.scale)

/-- The digits behind the point. -/
def placeDigits (d : Decimal) : List Char :=
  let ds := padded (d.scale + 1) d.mantissa.natAbs
  ds.drop (ds.length - d.scale)

theorem wholeDigits_append_placeDigits (d : Decimal) :
    d.wholeDigits ++ d.placeDigits = padded (d.scale + 1) d.mantissa.natAbs :=
  List.take_append_drop _ _

theorem length_placeDigits (d : Decimal) : d.placeDigits.length = d.scale := by
  have h := le_length_padded (d.scale + 1) d.mantissa.natAbs
  simp only [placeDigits, List.length_drop]
  omega

theorem wholeDigits_ne_nil (d : Decimal) : d.wholeDigits ≠ [] := by
  have h := le_length_padded (d.scale + 1) d.mantissa.natAbs
  rw [← List.length_pos_iff]
  simp only [wholeDigits, List.length_take]
  omega

theorem isDigit_of_mem_wholeDigits {d : Decimal} {c : Char} (h : c ∈ d.wholeDigits) :
    c.isDigit = true := isDigit_of_mem_padded (List.mem_of_mem_take h)

theorem isDigit_of_mem_placeDigits {d : Decimal} {c : Char} (h : c ∈ d.placeDigits) :
    c.isDigit = true := isDigit_of_mem_padded (List.mem_of_mem_drop h)

theorem length_digits_le (d : Decimal) : d.wholeDigits.length + d.placeDigits.length ≤ 29 := by
  have hlen : (digits d.mantissa.natAbs).length ≤ 29 :=
    (Nat.length_toDigits_le_iff (by decide) (by decide)).2 (Nat.lt_trans d.mantissa_lt (by decide))
  have hscale : d.scale ≤ 28 := d.scale_le
  rw [← List.length_append, wholeDigits_append_placeDigits, padded, List.length_append,
    List.length_replicate]
  omega

theorem natOfDigits_append (d : Decimal) :
    natOfDigits (d.wholeDigits ++ d.placeDigits) = d.mantissa.natAbs := by
  rw [wholeDigits_append_placeDigits, natOfDigits_padded]

/-- No zeros stand in front of the whole part. -/
theorem wholeDigits_of_head?_zero {d : Decimal} (h : d.wholeDigits.head? = some '0') :
    d.wholeDigits = ['0'] := by
  have hlen := length_digits_pos d.mantissa.natAbs
  simp only [wholeDigits, padded, List.length_append, List.length_replicate] at h ⊢
  rcases Nat.lt_or_ge d.scale (digits d.mantissa.natAbs).length with hlt | hge
  · rw [show d.scale + 1 - (digits d.mantissa.natAbs).length = 0 by omega, List.replicate_zero,
      List.nil_append, Nat.zero_add] at h ⊢
    rw [List.head?_take, if_neg (by omega)] at h
    rw [digits_of_head?_zero h] at hlt ⊢
    rw [List.length_singleton] at hlt ⊢
    rw [show d.scale = 0 by omega]
    rfl
  · obtain ⟨k, hk⟩ := Nat.exists_eq_add_of_le hge
    rw [show d.scale + 1 - (digits d.mantissa.natAbs).length = k + 1 by omega,
      show k + 1 + (digits d.mantissa.natAbs).length - d.scale = 1 by omega]
    rfl

/-- The places with the point in front of them, if there are any. -/
def placesText (d : Decimal) : List Char := if d.scale == 0 then [] else '.' :: d.placeDigits

theorem digitText_eq (d : Decimal) : d.digitText = d.wholeDigits ++ d.placesText := by
  simp only [digitText, placesText]
  split <;> simp [wholeDigits, placeDigits]

theorem text_eq (d : Decimal) :
    d.text.toList = (if d.mantissa < 0 then ['-'] else []) ++ (d.wholeDigits ++ d.placesText) := by
  rw [text, String.toList_ofList, digitText_eq]
  split <;> rfl

/-! ## Reading digits -/

theorem le_ofDigitChars (ds : List Char) (m : Nat) : m ≤ Nat.ofDigitChars 10 ds m := by
  induction ds generalizing m with
  | nil => simp
  | cons c ds ih =>
    rw [Nat.ofDigitChars_cons]
    have h := ih (10 * m + (c.toNat - '0'.toNat))
    omega

/-- Digits in front of the point are read as long as the number fits. -/
theorem readPlain_digits {negative digit : Bool} {m : Nat} {ds rest : List Char}
    (hds : ∀ c ∈ ds, c.isDigit = true) (hfit : Nat.ofDigitChars 10 ds m < bound) :
    readPlain negative false digit m 0 (ds ++ rest) =
      readPlain negative false (digit || !ds.isEmpty) (Nat.ofDigitChars 10 ds m) 0 rest := by
  induction ds generalizing m digit with
  | nil => simp
  | cons c ds ih =>
    rw [Nat.ofDigitChars_cons] at hfit ⊢
    have hm : ¬ bound ≤ 10 * m + (c.toNat - '0'.toNat) := by
      have h := le_ofDigitChars ds (10 * m + (c.toNat - '0'.toNat))
      omega
    have hscale : ¬ maxScale ≤ 0 := by decide
    have hrest : readPlain negative false true _ 0 (ds ++ rest) = _ :=
      ih (fun c h => hds c (List.mem_cons_of_mem _ h)) hfit
    rw [List.cons_append, readPlain.eq_def]
    simp only [hds c List.mem_cons_self, hm, hscale, ↓reduceIte, Bool.false_eq_true]
    rw [Bool.true_or] at hrest
    simp only [List.isEmpty_cons, Bool.not_false, Bool.or_true]
    cases hcs : ds ++ rest with
    | nil => rw [hcs] at hrest; exact hrest
    | cons next cs => rw [hcs] at hrest; exact hrest

/-- Digits behind the point are read as long as there is room for them, and for more of them where
the text goes on. -/
theorem readPlain_places (negative : Bool) {m scale : Nat} {ds rest : List Char}
    (hds : ∀ c ∈ ds, c.isDigit = true) (hfit : Nat.ofDigitChars 10 ds m < bound)
    (hscale : scale + ds.length ≤ maxScale) (hroom : scale + ds.length < maxScale ∨ rest = []) :
    readPlain negative true true m scale (ds ++ rest) =
      readPlain negative true true (Nat.ofDigitChars 10 ds m) (scale + ds.length) rest := by
  induction ds generalizing m scale with
  | nil => rfl
  | cons c ds ih =>
    rw [Nat.ofDigitChars_cons] at hfit ⊢
    have hm : ¬ bound ≤ 10 * m + (c.toNat - '0'.toNat) := by
      have h := le_ofDigitChars ds (10 * m + (c.toNat - '0'.toNat))
      omega
    rw [List.length_cons, show scale + (ds.length + 1) = scale + 1 + ds.length by omega]
      at hscale hroom ⊢
    rw [← ih (fun c h => hds c (List.mem_cons_of_mem _ h)) hfit hscale hroom, List.cons_append,
      readPlain.eq_def]
    simp only [hds c List.mem_cons_self, hm, ↓reduceIte]
    cases hcs : ds ++ rest with
    | nil => rfl
    | cons next cs =>
      have hnext : ¬ maxScale ≤ scale + 1 := by
        rcases hroom with hlt | rfl
        · omega
        · rw [List.append_nil] at hcs
          rw [hcs, List.length_cons] at hscale
          omega
      simp only [hnext, ↓reduceIte]

/-- The first `e` splits a text. -/
theorem splitExponent?_append {front cs : List Char} (h : ∀ c ∈ front, c ≠ 'e' ∧ c ≠ 'E') :
    splitExponent? (front ++ cs) = (splitExponent? cs).map fun p => (front ++ p.1, p.2) := by
  induction front with
  | nil => simp
  | cons c front ih =>
    obtain ⟨he, hE⟩ := h c List.mem_cons_self
    rw [List.cons_append, splitExponent?, ih fun c hc => h c (List.mem_cons_of_mem _ hc)]
    simp [he, hE, Function.comp_def]

/-! ## Reading the text -/

theorem signed?_parts (d : Decimal) :
    signed? (d.mantissa < 0) d.mantissa.natAbs d.scale = some d := by
  have hm : (if (decide (d.mantissa < 0)) = true then -(d.mantissa.natAbs : Int)
      else (d.mantissa.natAbs : Int)) = d.mantissa := by
    split <;> rename_i h <;> simp only [decide_eq_true_eq] at h <;> omega
  rw [signed?, hm, ofParts?, dif_pos ⟨d.mantissa_lt, d.scale_le⟩]

theorem readPlain_digitText (d : Decimal) :
    readPlain (d.mantissa < 0) false false 0 0 (d.wholeDigits ++ d.placesText) = .ok d := by
  have hall : Nat.ofDigitChars 10 (d.wholeDigits ++ d.placeDigits) 0 = d.mantissa.natAbs := by
    rw [wholeDigits_append_placeDigits]
    exact natOfDigits_padded _ _
  rw [Nat.ofDigitChars_append] at hall
  have hwhole : Nat.ofDigitChars 10 d.wholeDigits 0 < bound := by
    have h := le_ofDigitChars d.placeDigits (Nat.ofDigitChars 10 d.wholeDigits 0)
    have hlt := d.mantissa_lt
    omega
  rw [readPlain_digits (fun _ h => isDigit_of_mem_wholeDigits h) hwhole]
  have hne : (false || !d.wholeDigits.isEmpty) = true := by simp [wholeDigits_ne_nil]
  rw [hne, placesText]
  split
  · rename_i hscale
    have hscale : d.scale = 0 := beq_iff_eq.1 hscale
    have hnil : d.placeDigits = [] :=
      List.eq_nil_of_length_eq_zero (by rw [length_placeDigits, hscale])
    rw [hnil, Nat.ofDigitChars_nil] at hall
    have hd := signed?_parts d
    rw [hscale] at hd
    simp [readPlain, hall, hd]
  · have hpoint : readPlain (d.mantissa < 0) false true (Nat.ofDigitChars 10 d.wholeDigits 0) 0
        ('.' :: d.placeDigits) =
        readPlain (d.mantissa < 0) true true (Nat.ofDigitChars 10 d.wholeDigits 0) 0
          d.placeDigits := by
      simp [readPlain]
    rw [hpoint]
    have hplaces : readPlain (d.mantissa < 0) true true _ 0 (d.placeDigits ++ []) = _ :=
      readPlain_places _ (fun _ h => isDigit_of_mem_placeDigits h) (hall ▸ d.mantissa_lt)
        (by rw [length_placeDigits, Nat.zero_add]; exact d.scale_le) (.inr rfl)
    rw [List.append_nil, hall, length_placeDigits, Nat.zero_add] at hplaces
    rw [hplaces]
    simp [readPlain, signed?_parts d]

/-- A text that begins with a digit has no sign to take away. -/
theorem ofPlain?_of_isDigit {c : Char} {cs : List Char} (hc : c.isDigit = true) :
    ofPlain? (c :: cs) = readPlain false false false 0 0 (c :: cs) := by
  obtain ⟨hminus, hplus⟩ := ne_sign_of_isDigit hc
  simp [ofPlain?, hminus, hplus]

/-- A decimal is read back from its text, with the same scale. -/
theorem ofPlain?_text (d : Decimal) : ofPlain? d.text.toList = .ok d := by
  have hread := readPlain_digitText d
  rw [text_eq]
  by_cases hneg : d.mantissa < 0
  · rw [if_pos hneg]
    simpa [ofPlain?, hneg] using hread
  · rw [if_neg hneg, List.nil_append]
    cases hw : d.wholeDigits with
    | nil => exact absurd hw (wholeDigits_ne_nil d)
    | cons c cs =>
      have hc : c ∈ d.wholeDigits := by rw [hw]; exact List.mem_cons_self
      rw [hw] at hread
      rw [List.cons_append, ofPlain?_of_isDigit (isDigit_of_mem_wholeDigits hc)]
      simpa [hneg] using hread

theorem readPlain_natural (negative : Bool) {n : Nat} (hn : n < bound) :
    ∃ d, readPlain negative false false 0 0 (digits n) = .ok d := by
  have hval : Nat.ofDigitChars 10 (digits n) 0 = n := natOfDigits_digits n
  have hread : readPlain negative false false 0 0 (digits n ++ []) = _ :=
    readPlain_digits (fun _ h => isDigit_of_mem_digits h) (by rw [hval]; exact hn)
  have hne : (false || !(digits n).isEmpty) = true := by simp [digits_ne_nil]
  rw [List.append_nil, hne, hval] at hread
  have hfit : (if negative = true then -(n : Int) else n).natAbs < bound ∧ 0 ≤ maxScale := by
    split <;> exact ⟨by omega, Nat.zero_le _⟩
  refine ⟨⟨_, 0, hfit.1, hfit.2⟩, ?_⟩
  rw [hread]
  simp only [readPlain, signed?, ofParts?, dif_pos hfit]
  rfl

/-- The text of an integer of sixty-four bits is a decimal. -/
theorem ofPlain?_intDigits {z : Int} (hz : fitsInt64 z = true) :
    ∃ d, ofPlain? (intDigits z) = .ok d := by
  simp only [fitsInt64, Bool.and_eq_true, decide_eq_true_eq] at hz
  cases z with
  | ofNat n =>
    have hn : n < bound := by
      rw [Int.ofNat_eq_natCast] at hz
      simp only [bound]
      omega
    obtain ⟨d, hd⟩ := readPlain_natural false hn
    obtain ⟨c, cs, hcs, hc⟩ := digits_eq_cons n
    refine ⟨d, ?_⟩
    rw [hcs] at hd
    rw [intDigits, hcs, ofPlain?_of_isDigit hc, hd]
  | negSucc n =>
    have hn : n + 1 < bound := by simp only [bound]; omega
    obtain ⟨d, hd⟩ := readPlain_natural true hn
    exact ⟨d, hd⟩

end Compliance.Decimal
