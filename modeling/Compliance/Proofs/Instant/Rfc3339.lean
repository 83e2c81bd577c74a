import Compliance.Instant.Rfc3339
import Compliance.Proofs.Calendar
import Compliance.Proofs.Text.Digits
import Mathlib.Data.List.TakeDrop

/-!
# Compliance.Proofs.Instant.Rfc3339

Instants are read back from their text.

* `rfc3339?_eq`            — which instants have a form.
* `ofRfc3339?_text`        — reading the text of an instant that has a form gives the instant.
* `isWritable_of_ofText?`  — what is read has a form.
-/

namespace Compliance.Instant

open Compliance.Span (nanosPerSecond)
open Text

/-! ## Numbers -/

theorem number?_padded {width n : Nat} (rest : List Char) (hw : 0 < width) (hn : n < 10 ^ width) :
    number? width (padded width n ++ rest) = some (n, rest) := by
  have hlen := length_padded hw hn
  have htake : (padded width n ++ rest).take width = padded width n := List.take_left' hlen
  have hdrop : (padded width n ++ rest).drop width = rest := List.drop_left' hlen
  have hall : (padded width n).all Char.isDigit = true :=
    List.all_eq_true.2 fun _ h => isDigit_of_mem_padded h
  simp [number?, htake, hdrop, hlen, hall]

theorem number?_lt {width n : Nat} {cs rest : List Char} (h : number? width cs = some (n, rest)) :
    n < 10 ^ width := by
  simp only [number?] at h
  split at h
  · rename_i hds
    simp only [Bool.and_eq_true, beq_iff_eq, List.all_eq_true] at hds
    obtain ⟨hlen, hall⟩ := hds
    cases h
    have hlt := natOfDigits_lt hall
    rwa [hlen] at hlt
  · cases h

/-! ## Fractions -/

/-- Zeros at the end of a run of digits shift the number to the left. -/
theorem natOfDigits_strip (ds : List Char) :
    ∃ k, ds.length = (ds.reverse.dropWhile (· == '0')).reverse.length + k ∧
      natOfDigits ds = natOfDigits (ds.reverse.dropWhile (· == '0')).reverse * 10 ^ k := by
  have hzeros : ds.reverse.takeWhile (· == '0') =
      List.replicate (ds.reverse.takeWhile (· == '0')).length '0' := by
    rw [List.eq_replicate_iff]
    refine ⟨rfl, fun c hc => ?_⟩
    simpa using List.all_eq_true.1 List.all_takeWhile c hc
  have hds : ds = (ds.reverse.dropWhile (· == '0')).reverse ++
      List.replicate (ds.reverse.takeWhile (· == '0')).length '0' := by
    rw [← List.reverse_inj, List.reverse_append, List.reverse_reverse, List.reverse_replicate,
      ← hzeros, List.takeWhile_append_dropWhile]
  refine ⟨(ds.reverse.takeWhile (· == '0')).length, ?_, ?_⟩
  · conv => lhs; rw [hds]
    rw [List.length_append, List.length_replicate]
  · conv => lhs; rw [hds]
    rw [natOfDigits, Nat.ofDigitChars_append, Nat.ofDigitChars_replicate_zero, Nat.mul_comm]
    rfl

theorem nanosOfFraction_fractionDigits {n : Nat} (hn : n < 10 ^ 9) :
    nanosOfFraction (fractionDigits n) = n := by
  obtain ⟨k, hlen, hval⟩ := natOfDigits_strip (padded 9 n)
  rw [length_padded (by decide) hn] at hlen
  rw [natOfDigits_padded] at hval
  have htake : (fractionDigits n).take 9 = fractionDigits n :=
    List.take_of_length_le (by rw [fractionDigits]; omega)
  have hplaces : 9 - (fractionDigits n).length = k := by rw [fractionDigits]; omega
  rw [nanosOfFraction, htake, hplaces]
  exact hval.symm

theorem isDigit_of_mem_fractionDigits {n : Nat} {c : Char} (h : c ∈ fractionDigits n) :
    c.isDigit = true := by
  rw [fractionDigits, List.mem_reverse] at h
  exact isDigit_of_mem_padded (List.mem_reverse.1 ((List.dropWhile_sublist _).subset h))

theorem fraction?_fractionText {n : Nat} (hn : n < 10 ^ 9) {rest : List Char}
    (hdot : ∀ cs, rest ≠ '.' :: cs) (hdigit : ∀ c cs, rest = c :: cs → c.isDigit = false) :
    fraction? (fractionText n ++ rest) = some (n, rest) := by
  have hval := nanosOfFraction_fractionDigits hn
  have hall := fun c (h : c ∈ fractionDigits n) => isDigit_of_mem_fractionDigits h
  cases hds : fractionDigits n with
  | nil =>
    rw [hds] at hval
    have hzero : n = 0 := by rw [← hval]; rfl
    subst hzero
    rw [fractionText, hds]
    exact fraction?.eq_2 rest hdot
  | cons d ds =>
    rw [hds] at hval hall
    rw [fractionText, hds]
    simp only [List.cons_append]
    rw [fraction?, ← List.cons_append, takeDigits_append hall hdigit]
    show some (nanosOfFraction (d :: ds), rest) = some (n, rest)
    rw [hval]

/-! ## Offsets -/

/-- Offsets of whole minutes, below a day. -/
def IsWholeOffset (offset : Int) : Prop := offset.natAbs < 86400 ∧ offset.natAbs % 60 = 0

theorem offset?_offsetText {offset : Int} (h : IsWholeOffset offset) :
    offset? (offsetText offset) = some offset := by
  obtain ⟨hday, hminute⟩ := h
  rw [offsetText]
  by_cases hzero : offset = 0
  · subst hzero
    rfl
  · have hne : (offset == 0) = false := by simpa using hzero
    have hh : offset.natAbs / 3600 < 10 ^ 2 := by omega
    have hm : offset.natAbs / 60 % 60 < 10 ^ 2 := by omega
    have hhour := number?_padded (':' :: padded 2 (offset.natAbs / 60 % 60)) (by decide) hh
    have hmin := number?_padded [] (by decide) hm
    rw [List.append_nil] at hmin
    have hle : offset.natAbs / 3600 ≤ 23 := by omega
    have hle' : offset.natAbs / 60 % 60 ≤ 59 := by omega
    have hvalue : offset.natAbs = offset.natAbs / 3600 * 3600 + offset.natAbs / 60 % 60 * 60 := by
      omega
    rw [hne, if_neg (by decide), signOf]
    generalize offset.natAbs / 3600 = hour at *
    generalize offset.natAbs / 60 % 60 = minute at *
    split <;> rename_i hneg
    · rw [offset?]
      · simp [hhour, literal?, hmin, hle, hle']
        omega
      · rintro ⟨⟩
      · rintro ⟨⟩
    · rw [offset?]
      · simp [hhour, literal?, hmin, hle, hle']
        omega
      · rintro ⟨⟩
      · rintro ⟨⟩

theorem offsetText_head (offset : Int) :
    ∃ c cs, offsetText offset = c :: cs ∧ c.isDigit = false ∧ c ≠ '.' := by
  rw [offsetText, signOf]
  split
  · exact ⟨_, _, rfl, by decide, by decide⟩
  · split <;> exact ⟨_, _, rfl, by decide, by decide⟩

/-! ## Dates -/

theorem date?_dateText {d : CivilDate} (hvalid : d.isValid = true) (hlow : 0 ≤ d.year)
    (hhigh : d.year ≤ 9999) (rest : List Char) : date? (dateText d ++ rest) = some (d, rest) := by
  obtain ⟨year, month, day⟩ := d
  obtain ⟨-, hmonth, -, hday⟩ := (CivilDate.isValid_iff _).1 hvalid
  simp only at hlow hhigh hmonth hday
  have hlast := CivilDate.monthLength_le year month
  have hy := number?_padded ('-' :: (padded 2 month ++ '-' :: (padded 2 day ++ rest)))
    (by decide) (show year.natAbs < 10 ^ 4 by omega)
  have hm := number?_padded ('-' :: (padded 2 day ++ rest)) (by decide)
    (show month < 10 ^ 2 by omega)
  have hd := number?_padded rest (by decide) (show day < 10 ^ 2 by omega)
  have hyear : ((year.natAbs : Nat) : Int) = year := by omega
  simp [date?, dateText, hy, hm, hd, literal?, hyear, hvalid]

theorem length_dateText {d : CivilDate} (hvalid : d.isValid = true) (hlow : 0 ≤ d.year)
    (hhigh : d.year ≤ 9999) : (dateText d).length = 10 := by
  obtain ⟨-, hmonth, -, hday⟩ := (CivilDate.isValid_iff _).1 hvalid
  have hlast := CivilDate.monthLength_le d.year d.month
  simp only [dateText, List.length_append, List.length_cons,
    length_padded (by decide) (show d.year.natAbs < 10 ^ 4 by omega),
    length_padded (by decide) (show d.month < 10 ^ 2 by omega),
    length_padded (by decide) (show d.day < 10 ^ 2 by omega)]

/-! ## Instants -/

theorem isWritable_iff {t : Instant} :
    t.isWritable = true ↔ 0 ≤ t.date.year ∧ t.date.year ≤ 9999 ∧ IsWholeOffset t.offset := by
  simp only [isWritable, unwritable?, IsWholeOffset]
  split
  · rename_i h
    simp only [Bool.or_eq_true, decide_eq_true_eq] at h
    simp only [Option.isNone_some, Bool.false_eq_true, false_iff]
    omega
  · rename_i h
    simp only [Bool.or_eq_true, decide_eq_true_eq] at h
    split
    · simp only [Option.isNone_some, Bool.false_eq_true, false_iff]
      omega
    · split <;> simp_all

/-- Where the years have four digits and the offset is whole minutes, it is the hours that have no
form. -/
theorem unwritable?_of_wholeMinutes {t : Instant} (hlow : 0 ≤ t.date.year)
    (hhigh : t.date.year ≤ 9999) (hoffset : t.offset % 60 = 0) :
    t.unwritable? = if t.offset.natAbs < 86400 then none else some .offsetHour := by
  have hyear : ¬ ((t.date.year < 0 || 9999 < t.date.year) = true) := by
    simp only [Bool.or_eq_true, decide_eq_true_eq]
    omega
  have hminutes : (t.offset.natAbs % 60 != 0) = false := by
    simp only [bne_eq_false_iff_eq]
    omega
  rw [unwritable?, if_neg hyear, hminutes]
  by_cases h : t.offset.natAbs < 86400
  · rw [if_pos h, if_neg (by omega)]
    rfl
  · rw [if_neg h, if_pos (by omega)]

theorem unwritable?_eq_none_iff {t : Instant} : t.unwritable? = none ↔ t.isWritable = true := by
  rw [isWritable, Option.isNone_iff_eq_none]

theorem written_of_unwritable? {t : Instant} {c : Component} (h : t.unwritable? = some c) :
    t.written = .error c := by
  rw [written, h, Option.elim_some]

theorem written_eq_form {t : Instant} (h : t.isWritable = true) : t.written = .ok t.form := by
  rw [written, unwritable?_eq_none_iff.2 h, Option.elim_none]

theorem text_eq_form {t : Instant} (h : t.isWritable = true) : t.text = t.form := by
  rw [text, rfc3339?, written_eq_form h, Except.toOption, Option.getD_some]

theorem written_of_isWritable {t : Instant} (h : t.isWritable = true) : t.written = .ok t.text := by
  rw [written_eq_form h, text_eq_form h]

theorem isWritable_of_written {t : Instant} {s : String} (h : t.written = .ok s) :
    t.isWritable = true := by
  rw [← unwritable?_eq_none_iff]
  cases hpart : t.unwritable? with
  | none => rfl
  | some c =>
    rw [written_of_unwritable? hpart] at h
    cases h

theorem rfc3339?_eq (t : Instant) : t.rfc3339? = if t.isWritable then some t.text else none := by
  by_cases h : t.isWritable = true
  · rw [if_pos h, rfc3339?, written_of_isWritable h, Except.toOption]
  · obtain ⟨c, hc⟩ := Option.ne_none_iff_exists'.1 (mt unwritable?_eq_none_iff.1 h)
    rw [if_neg h, rfc3339?, written_of_unwritable? hc, Except.toOption]

/-- An instant is the one at which its clocks show its date and time. -/
theorem ofLocal?_eq (t : Instant) :
    ofLocal? t.date t.secondOfDay t.subsecond t.offset = some t := by
  have hnanos : (t.date.toDays * 86400 + t.secondOfDay - t.offset) * nanosPerSecond + t.subsecond =
      t.nanos := by
    rw [date, CivilDate.toDays_ofDays]
    simp only [secondOfDay, subsecond, localSecond, nanosPerSecond]
    omega
  rw [ofLocal?, hnanos, of?, dif_pos t.inCalendar]

/-- The text of an instant that the notation has a form for, part by part. -/
theorem toList_text {t : Instant} (h : t.isWritable = true) :
    t.text.toList =
      dateText t.date ++ 'T' :: (timeText t.secondOfDay ++ fractionText t.subsecond ++
        offsetText t.offset) := by
  rw [text_eq_form h, form, String.toList_ofList]

/-- Reading the text of an instant gives the instant. -/
theorem ofRfc3339?_text {t : Instant} (h : t.isWritable = true) :
    ofRfc3339? t.text.toList = some t := by
  obtain ⟨hlow, hhigh, hoffset⟩ := isWritable_iff.1 h
  have hsecond : t.secondOfDay < 86400 := by rw [secondOfDay]; omega
  have hsub : t.subsecond < 10 ^ 9 := by
    rw [subsecond, nanosPerSecond]
    omega
  obtain ⟨c, cs, hhead, hdigit, hdot⟩ := offsetText_head t.offset
  have hfraction : fraction? (fractionText t.subsecond ++ offsetText t.offset) =
      some (t.subsecond, offsetText t.offset) :=
    fraction?_fractionText hsub (by rw [hhead]; rintro cs ⟨⟩; exact hdot rfl)
      (by rw [hhead]; rintro d ds ⟨⟩; exact hdigit)
  generalize htail : fractionText t.subsecond ++ offsetText t.offset = tail at hfraction
  have hdate := date?_dateText (CivilDate.isValid_ofDays (t.localSecond / 86400)) hlow hhigh
    ('T' :: (padded 2 (t.secondOfDay / 3600) ++ ':' :: (padded 2 (t.secondOfDay / 60 % 60) ++
      ':' :: (padded 2 (t.secondOfDay % 60) ++ tail))))
  have hh := number?_padded (':' :: (padded 2 (t.secondOfDay / 60 % 60) ++
    ':' :: (padded 2 (t.secondOfDay % 60) ++ tail))) (by decide)
    (show t.secondOfDay / 3600 < 10 ^ 2 by omega)
  have hm := number?_padded (':' :: (padded 2 (t.secondOfDay % 60) ++ tail)) (by decide)
    (show t.secondOfDay / 60 % 60 < 10 ^ 2 by omega)
  have hs := number?_padded tail (by decide) (show t.secondOfDay % 60 < 10 ^ 2 by omega)
  have hparts : t.secondOfDay / 3600 * 3600 + t.secondOfDay / 60 % 60 * 60 + t.secondOfDay % 60 =
      t.secondOfDay := by omega
  have hle : t.secondOfDay / 3600 ≤ 23 ∧ t.secondOfDay / 60 % 60 ≤ 59 ∧ t.secondOfDay % 60 ≤ 60 ∧
      t.secondOfDay % 60 ≠ 60 := by omega
  obtain ⟨hhour, hminute, hsec, hleap⟩ := hle
  rw [toList_text h, List.append_assoc, htail, ofRfc3339?]
  simp only [date] at hdate ⊢
  simp [hdate, separator?, timeText, threeParts, hh, hm, hs, literal?, hfraction,
    offset?_offsetText hoffset, hhour, hminute, hsec, hleap, hparts]
  exact ofLocal?_eq t

theorem ofRfc3339?_of_written {t : Instant} {s : String} (h : t.written = .ok s) :
    ofRfc3339? s.toList = some t := by
  have hwritable := isWritable_of_written h
  rw [written_of_isWritable hwritable] at h
  cases h
  exact ofRfc3339?_text hwritable

/-! ## What is read -/

theorem fraction?_lt {n : Nat} {cs rest : List Char} (h : fraction? cs = some (n, rest)) :
    n < 10 ^ 9 := by
  simp only [fraction?] at h
  split at h
  · split at h
    · cases h
    · rename_i cs _ ds tail _ hds
      cases h
      have hall : ∀ c ∈ ds.take 9, c.isDigit = true := by
        intro c hc
        rw [takeDigits, List.span_eq_takeWhile_dropWhile] at hds
        have hmem := List.mem_of_mem_take hc
        rw [← (Prod.mk.inj hds).1] at hmem
        exact List.all_eq_true.1 List.all_takeWhile c hmem
      have hlt := natOfDigits_lt hall
      rw [List.length_take] at hlt
      calc natOfDigits (ds.take 9) * Nat.pow 10 (9 - ds.length)
          < 10 ^ min 9 ds.length * 10 ^ (9 - ds.length) :=
            Nat.mul_lt_mul_of_pos_right hlt (Nat.pow_pos (by decide))
        _ = 10 ^ (min 9 ds.length + (9 - ds.length)) := (Nat.pow_add ..).symm
        _ = 10 ^ 9 := by congr 1; omega
  · cases h
    decide

theorem offset?_whole {cs : List Char} {offset : Int} (h : offset? cs = some offset) :
    IsWholeOffset offset := by
  simp only [offset?] at h
  split at h
  · cases h
    exact ⟨by decide, by decide⟩
  · cases h
    exact ⟨by decide, by decide⟩
  · simp only [Option.bind_eq_bind] at h
    split at h
    · cases h
    · simp only [Option.bind_eq_some_iff] at h
      obtain ⟨⟨hour, cs₁⟩, -, cs₂, -, ⟨minute, cs₃⟩, -, h⟩ := h
      split at h
      · rename_i hle
        simp only [Bool.and_eq_true, decide_eq_true_eq] at hle
        simp only [Option.some.injEq] at h
        subst h
        constructor <;> split <;> omega
      · cases h
  · cases h

theorem date?_valid {cs rest : List Char} {d : CivilDate} (h : date? cs = some (d, rest)) :
    d.isValid = true ∧ 0 ≤ d.year ∧ d.year ≤ 9999 := by
  simp only [date?, Option.bind_eq_bind, Option.bind_eq_some_iff] at h
  obtain ⟨⟨year, cs₁⟩, hyear, cs₂, -, ⟨month, cs₃⟩, -, cs₄, -, ⟨day, cs₅⟩, -, h⟩ := h
  have hlt := number?_lt hyear
  split at h
  · rename_i hvalid
    cases h
    exact ⟨hvalid, by simp only; omega, by simp only; omega⟩
  · cases h

/-- What clocks show at an instant that is given by what they show. -/
theorem isWritable_of_ofLocal? {d : CivilDate} {second sub : Nat} {offset : Int} {t : Instant}
    (h : ofLocal? d second sub offset = some t) (hvalid : d.isValid = true) (hlow : 0 ≤ d.year)
    (hhigh : d.year ≤ 9999) (hsecond : second < 86400) (hsub : sub < 10 ^ 9)
    (hoffset : IsWholeOffset offset) : t.isWritable = true := by
  rw [ofLocal?, of?] at h
  split at h
  · cases h
    have hdate : Instant.date ⟨_, offset, ‹_›⟩ = d := by
      have hday : Instant.localSecond ⟨_, offset, ‹_›⟩ / 86400 = d.toDays := by
        simp only [localSecond, nanosPerSecond]
        omega
      rw [date, hday, CivilDate.ofDays_toDays hvalid]
    rw [isWritable_iff, hdate]
    exact ⟨hlow, hhigh, hoffset⟩
  · cases h

theorem isWritable_of_ofRfc3339? {cs : List Char} {t : Instant} (h : ofRfc3339? cs = some t) :
    t.isWritable = true := by
  simp only [ofRfc3339?, Option.bind_eq_bind, Option.bind_eq_some_iff] at h
  obtain ⟨⟨d, cs₁⟩, hd, cs₂, -, ⟨hour, cs₃⟩, -, cs₄, -, ⟨minute, cs₅⟩, -, cs₆, -, ⟨second, cs₇⟩, -,
    ⟨nanos, cs₈⟩, hnanos, offset, hoffset, h⟩ := h
  obtain ⟨hvalid, hlow, hhigh⟩ := date?_valid hd
  have hwhole := offset?_whole hoffset
  have hlt := fraction?_lt hnanos
  split at h
  · rename_i hle
    simp only [Bool.and_eq_true, decide_eq_true_eq] at hle
    split at h
    · simp only [Option.bind_eq_some_iff] at h
      obtain ⟨u, hu, h⟩ := h
      split at h
      · cases h
        exact isWritable_of_ofLocal? hu hvalid hlow hhigh (by omega) (by decide) hwhole
      · cases h
    · rename_i hleap
      simp only [beq_iff_eq] at hleap
      exact isWritable_of_ofLocal? h hvalid hlow hhigh (by omega) hlt hwhole
  · cases h

/-- What is read has a form in the notation. -/
theorem isWritable_of_ofText? {cs : List Char} {t : Instant} (h : ofText? cs = some t) :
    t.isWritable = true := by
  simp only [ofText?] at h
  split at h
  · rename_i u hu
    cases h
    exact isWritable_of_ofRfc3339? hu
  · split at h
    · exact isWritable_of_ofRfc3339? h
    · cases h

theorem ofText?_text {t : Instant} (h : t.isWritable = true) : ofText? t.text.toList = some t := by
  rw [ofText?, ofRfc3339?_text h]

end Compliance.Instant
