import Compliance.Proofs.Decimal.Shift
import Compliance.Proofs.Decimal.Text
import Compliance.Proofs.Except
import Mathlib.Tactic.Ring

/-!
# Compliance.Proofs.Decimal.Reading

Digits with a point or with an exponent, read as the decimals they denote.

* `Decimal.exists_ofText?_pointed` — digits around a point denote a decimal.
* `Decimal.exists_mantissa`        — so do the digits in front of an exponent.
* `Decimal.value_moved_minus`, `Decimal.value_moved_plus` — the exponent moves the point.
-/

namespace Compliance.Decimal

open Text

variable {negative : Bool} {ds ws ps rest : List Char}

/-- The sign in front of a number. -/
def signText (negative : Bool) : List Char := if negative then ['-'] else []

theorem forall_mem_append (hws : ∀ c ∈ ws, c.isDigit = true) (hps : ∀ c ∈ ps, c.isDigit = true) :
    ∀ c ∈ ws ++ ps, c.isDigit = true :=
  fun c hc => (List.mem_append.1 hc).elim (hws c) (hps c)

/-- A run of so few digits denotes a number that fits. -/
theorem natOfDigits_lt_bound (hds : ∀ c ∈ ds, c.isDigit = true) (hlen : ds.length ≤ maxScale) :
    natOfDigits ds < bound := by
  have hpow : 10 ^ ds.length ≤ 10 ^ 28 := Nat.pow_le_pow_right (by decide) hlen
  exact Nat.lt_of_lt_of_le (natOfDigits_lt hds) (hpow.trans (by decide))

/-! ## Plain notation -/

/-- Digits around a point. -/
theorem readPlain_pointed (negative : Bool) (rest : List Char) (hne : ws ≠ [])
    (hws : ∀ c ∈ ws, c.isDigit = true)
    (hps : ∀ c ∈ ps, c.isDigit = true) (hlen : ws.length + ps.length ≤ maxScale) :
    readPlain negative false false 0 0 (ws ++ '.' :: (ps ++ rest)) =
      readPlain negative true true (natOfDigits (ws ++ ps)) ps.length rest := by
  have hpos := List.length_pos_iff.2 hne
  have hwhole := natOfDigits_lt_bound hws (by omega)
  have hall := natOfDigits_lt_bound (forall_mem_append hws hps) (by rwa [List.length_append])
  rw [natOfDigits, Nat.ofDigitChars_append] at hall ⊢
  have hdigit : (false || !ws.isEmpty) = true := by simpa using hne
  have hpoint : readPlain negative false true (Nat.ofDigitChars 10 ws 0) 0 ('.' :: (ps ++ rest)) =
      readPlain negative true true (Nat.ofDigitChars 10 ws 0) 0 (ps ++ rest) := by
    simp [readPlain]
  rw [readPlain_digits hws hwhole, hdigit, hpoint,
    readPlain_places negative hps hall (by omega) (.inl (by omega)), Nat.zero_add]

/-- The end of a number that fits. -/
theorem exists_readPlain_nil (negative point : Bool) {n scale : ℕ} (hn : n < bound)
    (hs : scale ≤ maxScale) :
    ∃ d, readPlain negative point true n scale [] = .ok d ∧
      d.mantissa = withSign negative n ∧ d.scale = scale := by
  obtain ⟨d, hd⟩ := Option.isSome_iff_exists.1 ((ofParts?_withSign negative n scale hs).2 hn)
  refine ⟨d, ?_, ofParts?_eq_some hd⟩
  have hsigned : signed? negative n scale = some d := hd
  simp [readPlain, hsigned]

theorem readPlain_exponent (point : Bool) (n scale : ℕ) :
    readPlain negative point true n scale ('e' :: rest) = .error .unknownCharacter := by
  cases point <;> rfl

/-- A sign in front of digits is taken away. -/
theorem ofPlain?_signText {c : Char} {cs : List Char} (hc : c.isDigit = true) :
    ofPlain? (signText negative ++ c :: cs) = readPlain negative false false 0 0 (c :: cs) := by
  cases negative
  · exact ofPlain?_of_isDigit hc
  · rfl

theorem ofText?_of_ofPlain? {cs : List Char} {d : Decimal} (h : ofPlain? cs = .ok d) :
    ofText? cs = .ok d := by
  rw [ofText?, h]

/-- Digits around a point denote a decimal with as many places as stand behind the point. -/
theorem exists_ofText?_pointed (negative : Bool) (hne : ws ≠ [])
    (hws : ∀ c ∈ ws, c.isDigit = true) (hps : ∀ c ∈ ps, c.isDigit = true)
    (hlen : ws.length + ps.length ≤ maxScale) :
    ∃ d, ofText? (signText negative ++ (ws ++ '.' :: ps)) = .ok d ∧
      d.value = signed negative (natOfDigits (ws ++ ps) / 10 ^ ps.length) := by
  have hfit := natOfDigits_lt_bound (forall_mem_append hws hps) (by rwa [List.length_append])
  obtain ⟨d, hd, hm, hs⟩ := exists_readPlain_nil negative true hfit
    (by omega : ps.length ≤ maxScale)
  refine ⟨d, ofText?_of_ofPlain? ?_, by rw [value_of_withSign hm, hs]⟩
  have hread := readPlain_pointed negative [] hne hws hps hlen
  rw [List.append_nil, hd] at hread
  obtain ⟨c, cs, rfl⟩ := List.exists_cons_of_ne_nil hne
  rw [List.cons_append, ofPlain?_signText (hws c List.mem_cons_self)]
  exact hread

/-! ## Scientific notation -/

/-- The digits in front of an exponent, with a point behind the first one if there are others. -/
def mantissaText : List Char → List Char
  | [] => []
  | [d] => [d]
  | d :: rest => d :: '.' :: rest

theorem readPlain_mantissaText (negative : Bool) (hne : ds ≠ []) (hds : ∀ c ∈ ds, c.isDigit = true)
    (hlen : ds.length ≤ maxScale) :
    ∃ point, ∀ rest, readPlain negative false false 0 0 (mantissaText ds ++ rest) =
      readPlain negative point true (natOfDigits ds) (ds.length - 1) rest := by
  match ds, hne with
  | [d], _ => exact ⟨false, fun rest => readPlain_digits hds (natOfDigits_lt_bound hds hlen)⟩
  | d :: d' :: ds, _ =>
    have hwhole : ∀ c ∈ [d], c.isDigit = true := fun c hc =>
      hds c (List.mem_cons.2 (.inl (List.mem_singleton.1 hc)))
    refine ⟨true, fun rest => readPlain_pointed negative rest (List.cons_ne_nil d []) hwhole
      (fun c hc => hds c (List.mem_cons_of_mem _ hc)) ?_⟩
    rw [List.length_cons] at hlen
    rw [List.length_singleton]
    omega

theorem mantissaText_eq_cons (hne : ds ≠ []) (hds : ∀ c ∈ ds, c.isDigit = true) :
    ∃ c cs, mantissaText ds = c :: cs ∧ c.isDigit = true := by
  match ds, hne with
  | [d], _ => exact ⟨d, [], rfl, hds d List.mem_cons_self⟩
  | d :: d' :: ds, _ => exact ⟨d, '.' :: d' :: ds, rfl, hds d List.mem_cons_self⟩

theorem ne_exponent_of_mem_mantissaText {c : Char} (hds : ∀ c ∈ ds, c.isDigit = true)
    (h : c ∈ signText negative ++ mantissaText ds) : c ≠ 'e' ∧ c ≠ 'E' := by
  have hcases : c = '-' ∨ c = '.' ∨ c.isDigit = true := by
    rcases List.mem_append.1 h with h | h
    · cases negative
      · cases h
      · exact .inl (List.mem_singleton.1 h)
    · match ds, h with
      | [d], h => exact .inr (.inr (hds c h))
      | d :: d' :: ds, h =>
        rcases List.mem_cons.1 h with rfl | h
        · exact .inr (.inr (hds _ List.mem_cons_self))
        · rcases List.mem_cons.1 h with rfl | h
          · exact .inr (.inl rfl)
          · exact .inr (.inr (hds c (List.mem_cons_of_mem _ h)))
  constructor <;> rintro rfl <;> revert hcases <;> decide

/-- A decimal with its point moved as an exponent says. -/
def moved (b : Decimal) : List Char → Except ReadError Decimal
  | '-' :: ks =>
    match exponent? ks with
    | none => .error .noExponent
    | some k => withScale b ((b.scale + k) % exponentBound)
  | ks =>
    match exponent? ks with
    | none => .error .noExponent
    | some k =>
      if k ≤ b.scale then withScale b (b.scale - k)
      else if maxScale < k then .error (.scaleTooLarge k)
      else (shiftLeft b k).map normalize

/-- The digits in front of an exponent denote a decimal with one digit in front of the point, whose
point is moved: together with the exponent they are nothing in plain notation. -/
theorem exists_mantissa (negative : Bool) (hne : ds ≠ []) (hds : ∀ c ∈ ds, c.isDigit = true)
    (hlen : ds.length ≤ maxScale) :
    ∃ b : Decimal, b.value = signed negative (natOfDigits ds / 10 ^ (ds.length - 1)) ∧
      b.scale = ds.length - 1 ∧
      ∀ exponent, ofText? (signText negative ++ (mantissaText ds ++ 'e' :: exponent)) =
        moved b exponent := by
  obtain ⟨point, hread⟩ := readPlain_mantissaText negative hne hds hlen
  obtain ⟨b, hb, hm, hs⟩ := exists_readPlain_nil negative point (natOfDigits_lt_bound hds hlen)
    (by omega : ds.length - 1 ≤ maxScale)
  obtain ⟨c, cs, hcs, hc⟩ := mantissaText_eq_cons hne hds
  refine ⟨b, by rw [value_of_withSign hm, hs], hs, fun exponent => ?_⟩
  have hbase : ofPlain? (signText negative ++ mantissaText ds) = .ok b := by
    have hnil := hread []
    rw [List.append_nil, hb] at hnil
    rw [hcs, ofPlain?_signText hc, ← hcs, hnil]
  have hplain : ofPlain? (signText negative ++ (mantissaText ds ++ 'e' :: exponent)) =
      .error .unknownCharacter := by
    have hrest := hread ('e' :: exponent)
    rw [readPlain_exponent] at hrest
    rw [hcs, List.cons_append, ofPlain?_signText hc, ← List.cons_append, ← hcs, hrest]
  have hsplit : splitExponent? (signText negative ++ (mantissaText ds ++ 'e' :: exponent)) =
      some (signText negative ++ mantissaText ds, exponent) := by
    rw [← List.append_assoc, splitExponent?_append fun c => ne_exponent_of_mem_mantissaText hds]
    simp [splitExponent?]
  rw [ofText?, hplain]
  simp only [ofScientific?, hsplit, hbase]
  rfl

/-! ## Moving the point -/

variable {b d : Decimal} {k : ℕ}

theorem exponent?_digits (hk : k < exponentBound) : exponent? (digits k) = some k := by
  obtain ⟨c, cs, hcs, hc⟩ := digits_eq_cons k
  have hread : natOfText? (digits k) = some k := by
    have hdrop : dropPlus (c :: cs) = c :: cs := by simp [dropPlus, (ne_sign_of_isDigit hc).2]
    rw [natOfText?, hcs, hdrop, ← hcs, unsigned?_digits]
  rw [exponent?, hread]
  simp [hk]

theorem exponent?_plus (hk : k < exponentBound) : exponent? ('+' :: digits k) = some k := by
  rw [exponent?, natOfText?, dropPlus, unsigned?_digits]
  simp [hk]

theorem value_withScale {scale : ℕ} (h : withScale b scale = .ok d) :
    d.value = b.value * 10 ^ b.scale / 10 ^ scale := by
  rw [withScale] at h
  split at h
  · cases h
    rw [value, value, div_mul_cancel₀ _ (by positivity)]
  · cases h

theorem exists_withScale (b : Decimal) {scale : ℕ} (h : scale ≤ maxScale) :
    ∃ d, withScale b scale = .ok d := by
  rw [withScale, dif_pos h]
  exact ⟨_, rfl⟩

/-- An exponent below zero divides by a power of ten, where there are places for all digits. -/
theorem moved_minus (b : Decimal) (hk : b.scale + k < exponentBound) :
    moved b ('-' :: digits k) = withScale b (b.scale + k) := by
  rw [moved, exponent?_digits (by omega)]
  simp only [Nat.mod_eq_of_lt hk]

theorem value_moved_minus (hk : b.scale + k < exponentBound)
    (h : moved b ('-' :: digits k) = .ok d) : d.value = b.value / 10 ^ k := by
  rw [moved_minus b hk] at h
  rw [value_withScale h, pow_add]
  field_simp

/-- Any other exponent multiplies by a power of ten. -/
theorem moved_plus (b : Decimal) (hk : k < exponentBound) :
    moved b ('+' :: digits k) =
      if k ≤ b.scale then withScale b (b.scale - k)
      else if maxScale < k then .error (.scaleTooLarge k)
      else (shiftLeft b k).map normalize := by
  have hmoved : moved b ('+' :: digits k) =
      match exponent? ('+' :: digits k) with
      | none => .error .noExponent
      | some k =>
        if k ≤ b.scale then withScale b (b.scale - k)
        else if maxScale < k then .error (.scaleTooLarge k)
        else (shiftLeft b k).map normalize := rfl
  rw [hmoved, exponent?_plus hk]

theorem value_moved_plus (h : moved b ('+' :: digits k) = .ok d) : d.value = b.value * 10 ^ k := by
  have hk : k < exponentBound := Nat.lt_of_not_le fun hle => by
    have hnone : exponent? ('+' :: digits k) = none := by
      rw [exponent?, natOfText?, dropPlus, unsigned?_digits]
      simp [hle]
    simp [moved, hnone] at h
  rw [moved_plus b hk] at h
  split at h
  · rename_i hle
    obtain ⟨e, he⟩ := Nat.exists_eq_add_of_le hle
    rw [value_withScale h, he, Nat.add_sub_cancel_left, pow_add]
    field_simp
  · split at h
    · cases h
    · obtain ⟨e, he, rfl⟩ := Except.map_eq_ok h
      rw [value_normalize, value_shiftLeft he]

theorem exists_moved_plus (hk : k ≤ maxScale) (h : |b.value| * 10 ^ k ≤ (bound - 1 : ℕ)) :
    ∃ d, moved b ('+' :: digits k) = .ok d := by
  rw [moved_plus b (Nat.lt_of_le_of_lt hk (by decide)), if_neg (Nat.not_lt.2 hk)]
  split
  · exact exists_withScale b ((Nat.sub_le _ _).trans b.scale_le)
  · obtain ⟨d, hd⟩ := exists_shiftLeft h
    rw [hd]
    exact ⟨_, rfl⟩

/-! ## What a text denotes -/

/-- A text is read as the number `y`, if there is a decimal of this value. -/
structure Denotes (cs : List Char) (y : ℚ) : Prop where
  value_eq : ∀ {d}, ofText? cs = .ok d → d.value = y
  exists_ok : ∀ {d : Decimal}, d.value = y → ∃ e, ofText? cs = .ok e

theorem denotes_of_ok {cs : List Char} {y : ℚ} (h : ofText? cs = .ok d) (hd : d.value = y) :
    Denotes cs y where
  value_eq h' := by
    rw [h] at h'
    cases h'
    exact hd
  exists_ok _ := ⟨d, h⟩

theorem abs_value_le (d : Decimal) : |d.value| ≤ (bound - 1 : ℕ) := by
  have hnat : d.mantissa.natAbs ≤ bound - 1 := Nat.le_sub_one_of_lt d.mantissa_lt
  have hpow : (1 : ℚ) ≤ 10 ^ d.scale := one_le_pow₀ (by norm_num)
  rw [abs_value, cast_pow10]
  exact (div_le_self (Nat.cast_nonneg _) hpow).trans (by exact_mod_cast hnat)

theorem denotes_minus (negative : Bool) (hds : ∀ c ∈ ds, c.isDigit = true)
    (hlen : ds.length ≤ maxScale) (hlast : natOfDigits ds % 10 ≠ 0)
    (hk : ds.length - 1 + k < exponentBound) :
    Denotes (signText negative ++ (mantissaText ds ++ 'e' :: '-' :: digits k))
      (signed negative (natOfDigits ds / 10 ^ (ds.length - 1 + k))) := by
  have hne : ds ≠ [] := by
    rintro rfl
    exact hlast rfl
  obtain ⟨b, hb, hs, hread⟩ := exists_mantissa negative hne hds hlen
  have hvalue : b.value / 10 ^ k = signed negative (natOfDigits ds / 10 ^ (ds.length - 1 + k)) := by
    rw [hb, div_eq_mul_inv, signed_mul, ← div_eq_mul_inv, div_div, ← pow_add]
  rw [← hs] at hk
  refine ⟨fun h => ?_, fun {d} hd => ?_⟩
  · rw [hread] at h
    rw [value_moved_minus hk h, hvalue]
  · rw [hread, moved_minus b hk, hs]
    have habs : ((natOfDigits ds : ℤ) : ℚ) / 10 ^ (ds.length - 1 + k) =
        (d.mantissa.natAbs : ℤ) / 10 ^ d.scale := by
      rw [Int.cast_natCast, Int.cast_natCast, ← cast_pow10 d.scale, ← abs_value, hd,
        abs_signed _ (by positivity)]
    exact exists_withScale b ((places_le_of_div_eq (by omega) habs).trans d.scale_le)

theorem denotes_plus (negative : Bool) (hne : ds ≠ []) (hds : ∀ c ∈ ds, c.isDigit = true)
    (hlen : ds.length ≤ maxScale) (hhead : 10 ^ (ds.length - 1) ≤ natOfDigits ds) (k : ℕ) :
    Denotes (signText negative ++ (mantissaText ds ++ 'e' :: '+' :: digits k))
      (signed negative (natOfDigits ds / 10 ^ (ds.length - 1) * 10 ^ k)) := by
  obtain ⟨b, hb, -, hread⟩ := exists_mantissa negative hne hds hlen
  have hvalue : b.value * 10 ^ k =
      signed negative (natOfDigits ds / 10 ^ (ds.length - 1) * 10 ^ k) := by rw [hb, signed_mul]
  refine ⟨fun h => ?_, fun {d} hd => ?_⟩
  · rw [hread] at h
    rw [value_moved_plus h, hvalue]
  · rw [hread]
    have habs : |b.value| * 10 ^ k = |d.value| := by
      rw [hd, ← hvalue, abs_mul, abs_of_pos (by positivity : (0 : ℚ) < 10 ^ k)]
    refine exists_moved_plus (Nat.le_of_not_lt fun hlt => ?_) (habs ▸ d.abs_value_le)
    -- with a digit other than zero in front the number would be too large
    have hone : (1 : ℚ) ≤ |b.value| := by
      rw [hb, abs_signed _ (by positivity), one_le_div (by positivity)]
      exact_mod_cast hhead
    have hpow : (10 : ℚ) ^ 29 ≤ 10 ^ k := pow_le_pow_right₀ (by norm_num) hlt
    have hle : (10 : ℚ) ^ 29 ≤ (bound - 1 : ℕ) := by
      refine le_trans ?_ (habs ▸ d.abs_value_le)
      nlinarith
    exact absurd (by exact_mod_cast hle : 10 ^ 29 ≤ bound - 1) (by decide)

end Compliance.Decimal
