import Compliance.Proofs.Text.Blank
import Compliance.Proofs.Value.Order

/-!
# Compliance.Proofs.Value.Spelling

Values and their other spellings are equal, and have one place in the order.

* `Value.Coincide`            — two values are equal and stand in one place of the order.
* `Value.numberOfText?_text`  — the text of a decimal writes this decimal.
* `Value.instant?_around`     — the text of an instant stands for this instant.
* `Value.instant?_millis`     — so do its milliseconds, where UTC has a year for it.
* `Value.coincide_spellings`  — these together.
-/

namespace Compliance

open Compliance.Span (nanosPerSecond)

/-! ## Texts without blanks -/

theorem Decimal.isSolid_text (d : Decimal) : Text.IsSolid d.text.toList := by
  have hwhole : Text.IsSolid d.wholeDigits :=
    Text.isSolid_of_isDigit fun _ => isDigit_of_mem_wholeDigits
  have hplaces : Text.IsSolid d.placeDigits :=
    Text.isSolid_of_isDigit fun _ => isDigit_of_mem_placeDigits
  rw [text_eq, placesText]
  split <;> split <;> simp [hwhole, hplaces] <;> decide

theorem Decimal.text_ne_nil (d : Decimal) : d.text.toList ≠ [] := by
  rw [text_eq]
  simp [d.wholeDigits_ne_nil]

namespace Instant

@[simp] theorem isSolid_padded (width n : ℕ) : Text.IsSolid (Text.padded width n) :=
  Text.isSolid_of_isDigit fun _ => Text.isDigit_of_mem_padded

theorem isSolid_fractionText (n : ℕ) : Text.IsSolid (fractionText n) := by
  have hdigits : Text.IsSolid (fractionDigits n) :=
    Text.isSolid_of_isDigit fun _ => isDigit_of_mem_fractionDigits
  rw [fractionText]
  split
  · exact Text.isSolid_nil
  · exact Text.isSolid_cons.2 ⟨by decide, hdigits⟩

theorem isSolid_offsetText (offset : ℤ) : Text.IsSolid (offsetText offset) := by
  have hsign : Text.isBlank (signOf offset) = false := by
    rw [signOf]
    split <;> decide
  rw [offsetText]
  split
  · exact Text.isSolid_cons.2 ⟨by decide, Text.isSolid_nil⟩
  · simpa [hsign] using (by decide : Text.isBlank ':' = false)

theorem isSolid_text {t : Instant} (h : t.isWritable = true) : Text.IsSolid t.text.toList := by
  rw [toList_text h]
  simp [dateText, timeText, threeParts, isSolid_fractionText, isSolid_offsetText]
  decide

theorem text_ne_nil {t : Instant} (h : t.isWritable = true) : t.text.toList ≠ [] := by
  rw [toList_text h]
  simp

/-! ## Milliseconds -/

theorem natAbs_nanos_lt (t : Instant) : t.nanos.natAbs < Decimal.bound := by
  have h := t.nanos_bounds
  simp only [Decimal.bound]
  omega

/-- The milliseconds from 1970-01-01T00:00:00Z to an instant, with all their places. -/
def millis (t : Instant) : Decimal := ⟨t.nanos, 6, t.natAbs_nanos_lt, by decide⟩

theorem nanosOfMillis?_of_value {t : Instant} {ms : Decimal}
    (h : ms.value = (t.nanos : ℚ) / 10 ^ 6) : ms.nanosOfMillis? = some t.nanos := by
  have hmillion : Decimal.million.value = 10 ^ 6 := by norm_num [Decimal.value, Decimal.million]
  have hproduct : ms.value * Decimal.million.value = t.nanos := by
    rw [h, hmillion, div_mul_cancel₀ _ (by norm_num)]
  obtain ⟨d, hd, htruncate⟩ := Decimal.truncate_times?_int t.natAbs_nanos_lt hproduct
  rw [Decimal.nanosOfMillis?, hd, Option.map_some, htruncate]

end Instant

namespace Value

/-! ## One value in two spellings -/

/-- Two values are equal and stand in one place of the order, from whichever side they are
compared. -/
structure Coincide (v w : Value) : Prop where
  equal : looseEq v w = true
  equal_swap : looseEq w v = true
  order : order v w = .ok (some .eq)
  order_swap : Value.order w v = .ok (some .eq)

variable {w : Value}

theorem order_swap_eq {v : Value} (h : order v w = .ok (some .eq)) :
    order w v = .ok (some .eq) := by
  rw [order_swap, h]
  rfl

theorem coincide_of_number {d e : Decimal} (hw : w.number? = some e) (h : d.value = e.value) :
    Coincide (.number d) w := by
  have hbeq : (d == e) = true := Decimal.beq_iff.2 h
  have horder := (OrderedAs.numbers (v := .number d) rfl hw).order_eq
  rw [Decimal.order_eq_iff.2 hbeq] at horder
  refine ⟨?_, ?_, horder, order_swap_eq horder⟩
  · rw [looseEq_of_numbers rfl hw, hbeq]
  · rw [looseEq_of_numbers hw rfl]
    exact Decimal.beq_iff.2 h.symm

theorem coincide_of_instant {t u : Instant} (hw : w.instant? = some u) (h : t.nanos = u.nanos) :
    Coincide (.instant t) w := by
  have hbeq : (t == u) = true := Instant.beq_iff.2 h
  have horder := (OrderedAs.instants (v := .instant t) rfl rfl hw).order_eq
  rw [Instant.order_eq_iff.2 h] at horder
  refine ⟨?_, ?_, horder, order_swap_eq horder⟩
  · rw [looseEq_of_instant_left hw, hbeq]
  · rw [looseEq_of_instant_right hw, u.beq_comm t, hbeq]

variable {pre post : String}

theorem toList_around (pre s post : String) :
    (pre ++ s ++ post).toList = pre.toList ++ (s.toList ++ post.toList) := by
  rw [String.toList_append, String.toList_append, List.append_assoc]

theorem numberOfText?_text (hpre : ∀ c ∈ pre.toList, Text.isBlank c = true)
    (hpost : ∀ c ∈ post.toList, Text.isBlank c = true) (d : Decimal) :
    numberOfText? (pre ++ d.text ++ post) = some d := by
  have htrim : Text.trim (pre ++ d.text ++ post).toList = d.text.toList := by
    rw [toList_around]
    exact Text.trim_around hpre hpost d.isSolid_text d.text_ne_nil
  have hempty : d.text.toList.isEmpty = false := List.isEmpty_eq_false_iff.2 d.text_ne_nil
  have hread : Decimal.ofText? d.text.toList = .ok d := by
    rw [Decimal.ofText?, Decimal.ofPlain?_text]
  simp only [numberOfText?, htrim, hempty, hread]
  rfl

theorem instant?_around (hpre : ∀ c ∈ pre.toList, Text.isBlank c = true)
    (hpost : ∀ c ∈ post.toList, Text.isBlank c = true) {t : Instant} (h : t.isWritable = true) :
    (text (pre ++ t.text ++ post)).instant? = some t := by
  rw [instant?_text, toList_around,
    Text.trim_around hpre hpost (Instant.isSolid_text h) (Instant.text_ne_nil h),
    Instant.ofText?_text h]

theorem instant?_millis {t : Instant} (h : t.toUtc? ≠ none) {ms : Decimal}
    (hms : ms.value = (t.nanos : ℚ) / 10 ^ 6) :
    ∃ u, (number ms).instant? = some u ∧ u.nanos = t.nanos := by
  have hin : Instant.InCalendar t.nanos 0 := by
    by_contra hout
    exact h (Instant.of?_eq_none_iff.2 hout)
  refine ⟨⟨t.nanos, 0, hin⟩, Decimal.instant?_number_eq_some.2 ⟨t.nanos, ?_, ?_⟩, rfl⟩
  · exact Instant.nanosOfMillis?_of_value hms
  · rw [Instant.ofUnixNanos?, Instant.of?_eq_some hin]

/-- A number coincides with its text, whether this keeps the scale or not; an instant coincides with
its text in the notation of RFC 3339, which it has in the years 0 to 9999 with an offset of whole
minutes below a day, and with the exact number of its milliseconds. Blanks around a text do not
count. -/
theorem coincide_spellings (d : Decimal) (t : Instant)
    (hpre : ∀ c ∈ pre.toList, Text.isBlank c = true)
    (hpost : ∀ c ∈ post.toList, Text.isBlank c = true) :
    Coincide (.number d) (.text (pre ++ d.text ++ post)) ∧
    Coincide (.number d) (.text (pre ++ (number d).stringify ++ post)) ∧
    (t.rfc3339?.isSome = true ↔
      0 ≤ t.date.year ∧ t.date.year ≤ 9999 ∧ Instant.IsWholeOffset t.offset) ∧
    (∀ s, t.rfc3339? = some s → Coincide (.instant t) (.text (pre ++ s ++ post))) ∧
    t.millis.value = (t.nanos : ℚ) / 10 ^ 6 ∧
    (t.toUtc? ≠ none → ∀ ms : Decimal, ms.value = (t.nanos : ℚ) / 10 ^ 6 →
      Coincide (.instant t) (.number ms)) := by
  refine ⟨?_, ?_, ?_, ?_, rfl, ?_⟩
  · exact coincide_of_number (numberOfText?_text hpre hpost d) rfl
  · rw [stringify]
    exact coincide_of_number (numberOfText?_text hpre hpost d.normalize) d.value_normalize.symm
  · rw [← Instant.isWritable_iff, Instant.rfc3339?_eq]
    split <;> simp [*]
  · intro s hs
    have hwritable : t.isWritable = true := by
      rw [Instant.rfc3339?_eq] at hs
      split at hs
      · assumption
      · cases hs
    obtain rfl : t.text = s := by rw [Instant.text, hs, Option.getD_some]
    exact coincide_of_instant (instant?_around hpre hpost hwritable) rfl
  · intro hutc ms hms
    obtain ⟨u, hu, hnanos⟩ := instant?_millis hutc hms
    exact coincide_of_instant hu hnanos.symm

/-- A number with a zero in its last place, and half a millisecond before 1970, told two hours ahead
of UTC. -/
theorem coincide_spellings_fraction :
    let d : Decimal := ⟨150, 2, by decide, by decide⟩
    let t : Instant := ⟨-500000, 7200, by decide⟩
    Coincide (.number d) (.text " 1.50\t") ∧ Coincide (.number d) (.text " 1.5\t") ∧
      Coincide (.instant t) (.text " 1970-01-01T01:59:59.9995+02:00\t") ∧
      Coincide (.instant t) (.number ⟨-5, 1, by decide, by decide⟩) := by
  intro d t
  have hpre : ∀ c ∈ " ".toList, Text.isBlank c = true :=
    List.all_eq_true.1 (by decide +kernel)
  have hpost : ∀ c ∈ "\t".toList, Text.isBlank c = true :=
    List.all_eq_true.1 (by decide +kernel)
  obtain ⟨htext, hnormal, -, hrfc, -, hmillis⟩ := coincide_spellings d t hpre hpost
  have hwritten : t.rfc3339? = some "1970-01-01T01:59:59.9995+02:00" := by decide +kernel
  have hutc : t.toUtc? ≠ none := by decide
  have hscale : " " ++ d.text ++ "\t" = " 1.50\t" := by decide +kernel
  have hplaces : " " ++ (number d).stringify ++ "\t" = " 1.5\t" := by decide +kernel
  have hinstant : " " ++ "1970-01-01T01:59:59.9995+02:00" ++ "\t" =
      " 1970-01-01T01:59:59.9995+02:00\t" := by decide +kernel
  rw [hscale] at htext
  rw [hplaces] at hnormal
  refine ⟨htext, hnormal, hinstant ▸ hrfc _ hwritten, hmillis hutc _ ?_⟩
  norm_num [Decimal.value, t]

end Value

end Compliance
