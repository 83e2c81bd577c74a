import Compliance.Proofs.Decimal.Text
import Compliance.Proofs.Instant.Rfc3339
import Compliance.Value.Coercion

/-!
# Compliance.Proofs.Value.Coercion

What texts stand for.

* `Instant.ofText?_year`          — the text of an instant begins with four digits and a minus sign.
* `Decimal.ofText?_year`          — no decimal does.
* `Value.number?_of_instant?_text` — a text that stands for an instant stands for no number.
-/

namespace Compliance

/-- A text that begins with four digits and a minus sign. -/
def Text.StartsYear (cs : List Char) : Prop :=
  ∃ ds tail, cs = ds ++ '-' :: tail ∧ ds.length = 4 ∧ ∀ c ∈ ds, c.isDigit = true

/-! ## Instants -/

namespace Instant

theorem date?_year {cs rest : List Char} {d : CivilDate} (h : date? cs = some (d, rest)) :
    Text.StartsYear cs := by
  simp only [date?, Option.bind_eq_bind, Option.bind_eq_some_iff] at h
  obtain ⟨⟨year, cs₁⟩, hyear, cs₂, hminus, -⟩ := h
  rw [number?] at hyear
  split at hyear
  · rename_i hdigits
    cases hyear
    simp only [Bool.and_eq_true, beq_iff_eq, List.all_eq_true] at hdigits
    rw [literal?.eq_def] at hminus
    split at hminus
    · rename_i c tail hrest
      split at hminus
      · rename_i hc
        rw [beq_iff_eq] at hc
        rw [hc] at hrest
        exact ⟨cs.take 4, tail, by rw [← hrest, List.take_append_drop], hdigits⟩
      · cases hminus
    · cases hminus
  · cases hyear

theorem ofRfc3339?_year {cs : List Char} {t : Instant} (h : ofRfc3339? cs = some t) :
    Text.StartsYear cs := by
  simp only [ofRfc3339?, Option.bind_eq_bind, Option.bind_eq_some_iff] at h
  obtain ⟨⟨d, rest⟩, hdate, -⟩ := h
  exact date?_year hdate

theorem ofText?_year {cs : List Char} {t : Instant} (h : ofText? cs = some t) :
    Text.StartsYear cs := by
  rw [ofText?] at h
  split at h
  · rename_i hread
    exact ofRfc3339?_year hread
  · split at h
    · rename_i hlength
      rw [beq_iff_eq] at hlength
      obtain ⟨ds, tail, heq, hds⟩ := ofRfc3339?_year h
      -- the minus sign stands in front of what was appended
      rcases List.append_eq_append_iff.1 heq with ⟨front, hfront, -⟩ | ⟨front, hfront, hback⟩
      · have := congrArg List.length hfront
        rw [List.length_append, hds.1, hlength] at this
        omega
      · cases front with
        | nil =>
          have := congrArg List.length hfront
          simp [hds.1, hlength] at this
        | cons c front =>
          injection hback with hc hback
          exact ⟨ds, front, by rw [hfront, hc], hds⟩
    · cases h

end Instant

/-! ## Decimals -/

namespace Decimal

theorem ofPlain?_year {cs : List Char} (h : Text.StartsYear cs) : ∃ e, ofPlain? cs = .error e := by
  obtain ⟨ds, tail, rfl, hlength, hds⟩ := h
  have hfit : Nat.ofDigitChars 10 ds 0 < bound := by
    have hlt : Text.natOfDigits ds < 10 ^ ds.length := Text.natOfDigits_lt hds
    rw [hlength] at hlt
    exact Nat.lt_trans hlt (by decide)
  have hread : readPlain false false false 0 0 (ds ++ '-' :: tail) = _ := readPlain_digits hds hfit
  cases ds with
  | nil => cases hlength
  | cons c ds =>
    refine ⟨refusal '-', ?_⟩
    rw [List.cons_append, ofPlain?_of_isDigit (hds c List.mem_cons_self), ← List.cons_append, hread,
      readPlain.eq_def]
    rfl

theorem ofText?_year {cs : List Char} (h : Text.StartsYear cs) : ∃ e, ofText? cs = .error e := by
  obtain ⟨plain, hplain⟩ := ofPlain?_year h
  obtain ⟨ds, tail, rfl, hlength, hds⟩ := h
  have hfront : ∀ c ∈ ds ++ ['-'], c ≠ 'e' ∧ c ≠ 'E' := by
    intro c hc
    rcases List.mem_append.1 hc with hc | hc
    · have hdigit := hds c hc
      constructor
      · rintro rfl
        cases hdigit
      · rintro rfl
        cases hdigit
    · obtain rfl := List.mem_singleton.1 hc
      exact ⟨by decide, by decide⟩
  have hsplit : splitExponent? (ds ++ ['-'] ++ tail) = _ := splitExponent?_append hfront
  rw [List.append_assoc, List.singleton_append] at hsplit
  rw [ofText?, hplain]
  simp only [ofScientific?, hsplit]
  cases splitExponent? tail with
  | none => exact ⟨_, rfl⟩
  | some parts =>
    have hyear : Text.StartsYear (ds ++ ['-'] ++ parts.1) :=
      ⟨ds, parts.1, by rw [List.append_assoc, List.singleton_append], hlength, hds⟩
    obtain ⟨base, hbase⟩ := ofPlain?_year hyear
    exact ⟨base, by simp only [Option.map_some, hbase]; rfl⟩

end Decimal

/-! ## Values -/

namespace Value

theorem instant?_text {s : String} : (text s).instant? = Instant.ofText? (Text.trim s.toList) := by
  rw [instant?, toInstant]
  cases Instant.ofText? (Text.trim s.toList) <;> rfl

/-- A text that stands for an instant stands for no number. -/
theorem number?_of_instant?_text {s : String} {t : Instant} (h : (text s).instant? = some t) :
    (text s).number? = none := by
  rw [instant?_text] at h
  obtain ⟨e, he⟩ := Decimal.ofText?_year (Instant.ofText?_year h)
  rw [number?, numberOfText?]
  split
  · rfl
  · rw [he]
    rfl

end Value

end Compliance
