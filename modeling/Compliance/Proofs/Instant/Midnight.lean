import Compliance.Proofs.Calendar
import Compliance.Proofs.Value.Range

/-!
# Compliance.Proofs.Instant.Midnight

The days of UTC on the time line.

* `Instant.utcDate`                  — the date that clocks in UTC show.
* `Instant.IsUtcMidnight`            — clocks in UTC show midnight of some date.
* `Instant.toUtc?_of_year`           — an instant is told in UTC where the calendar has its year.
* `Instant.isUtcMidnight_iff`        — the midnights are the whole days since 1970.
* `Instant.eq_midnight_iff`          — the midnight before an instant is the only one so close to it.
* `FunctionTable.today_startsDay`    — `TODAY` is the midnight at which the day of `NOW` begins.
-/

namespace Compliance

open Compliance.Span (nanosPerSecond)

namespace Instant

/-- The date that clocks in UTC show, also where it is not in the calendar. -/
def utcDate (t : Instant) : CivilDate := CivilDate.ofDays (t.nanos / nanosPerDay)

/-- Clocks in UTC show midnight, at the beginning of some date. -/
def IsUtcMidnight (t : Instant) : Prop :=
  ∃ date : CivilDate, date.isValid = true ∧ ofLocal? date 0 0 0 = some t

/-! ## Dates in UTC -/

theorem inCalendar_utc_iff (nanos : Int) :
    InCalendar nanos 0 ↔ (CivilDate.ofDays (nanos / nanosPerDay)).year.natAbs ≤ 9999 := by
  rw [CivilDate.natAbs_year_ofDays_le_iff]
  simp only [InCalendar, firstSecond, lastSecond, maxOffset, nanosPerDay, nanosPerSecond]
  omega

/-- Where the date has a year of the calendar, the instant is told in UTC with this date. -/
theorem toUtc?_of_year {t : Instant} (h : t.utcDate.year.natAbs ≤ 9999) :
    ∃ utc : Instant, t.toUtc? = some utc ∧ utc.nanos = t.nanos ∧ utc.offset = 0 ∧
      utc.date = t.utcDate := by
  have hin : InCalendar t.nanos 0 := (inCalendar_utc_iff t.nanos).2 h
  exact ⟨⟨t.nanos, 0, hin⟩, of?_eq_some hin, rfl, rfl, date_utc hin⟩

/-! ## Midnights -/

theorem of?_eq_some_iff {nanos offset : Int} {t : Instant} :
    of? nanos offset = some t ↔ t.nanos = nanos ∧ t.offset = offset := by
  constructor
  · intro h
    by_cases hin : InCalendar nanos offset
    · rw [of?_eq_some hin] at h
      cases h
      exact ⟨rfl, rfl⟩
    · rw [of?_eq_none_iff.2 hin] at h
      cases h
  · rintro ⟨rfl, rfl⟩
    exact of?_eq_some t.inCalendar

/-- The midnights of the calendar are the whole days since 1970. -/
theorem isUtcMidnight_iff {t : Instant} :
    t.IsUtcMidnight ↔ t.offset = 0 ∧ ∃ day : Int, t.nanos = day * nanosPerDay := by
  constructor
  · rintro ⟨date, -, h⟩
    rw [ofLocal?_midnight, of?_eq_some_iff] at h
    exact ⟨h.2, date.toDays, h.1⟩
  · rintro ⟨hoffset, day, hnanos⟩
    refine ⟨CivilDate.ofDays day, CivilDate.isValid_ofDays day, ?_⟩
    rw [ofLocal?_midnight, CivilDate.toDays_ofDays, of?_eq_some_iff]
    exact ⟨hnanos, hoffset⟩

theorem exists_utcMidnight? {t : Instant} (h : t.utcDate.year.natAbs ≤ 9999) :
    ∃ m : Instant, t.utcMidnight? = some m ∧ m.nanos = t.nanos / nanosPerDay * nanosPerDay ∧
      m.offset = 0 := by
  have hin : InCalendar t.nanos 0 := (inCalendar_utc_iff t.nanos).2 h
  refine ⟨⟨_, 0, inCalendar_midnight hin⟩, ?_, rfl, rfl⟩
  rw [utcMidnight?_eq_bind, toUtc?, of?_eq_some hin]
  exact of?_eq_some (inCalendar_midnight hin)

theorem eq_of_nanos_eq {t u : Instant} (hnanos : t.nanos = u.nanos) (hoffset : t.offset = u.offset) :
    t = u := by
  cases t
  cases u
  cases hnanos
  cases hoffset
  rfl

/-- Of the midnights of UTC, one is no later than a moment and less than a day in front of it. -/
theorem eq_midnight_iff {m t u : Instant} (hnanos : m.nanos = t.nanos / nanosPerDay * nanosPerDay)
    (hoffset : m.offset = 0) :
    u = m ↔ u.IsUtcMidnight ∧ u.nanos ≤ t.nanos ∧ t.nanos < u.nanos + nanosPerDay := by
  rw [isUtcMidnight_iff]
  simp only [nanosPerDay, nanosPerSecond] at *
  constructor
  · rintro rfl
    exact ⟨⟨hoffset, _, hnanos⟩, by omega, by omega⟩
  · rintro ⟨⟨hutc, day, hday⟩, hle, hlt⟩
    exact eq_of_nanos_eq (by omega) (by rw [hutc, hoffset])

/-- The days of two moments differ where a whole number of days ends behind the first of them, and
no later than the second. -/
theorem midnight_ne_iff {a b : Int} (h : a ≤ b) :
    b / nanosPerDay * nanosPerDay ≠ a / nanosPerDay * nanosPerDay ↔
      ∃ day : Int, a < day * nanosPerDay ∧ day * nanosPerDay ≤ b := by
  simp only [nanosPerDay, nanosPerSecond]
  constructor
  · intro hne
    exact ⟨b / (86400 * 1000000000), by omega, by omega⟩
  · rintro ⟨day, hlow, hhigh⟩ heq
    omega

end Instant

namespace FunctionTable

open Instant (nanosPerDay)

theorem call_now (t : Instant) : standard.call "NOW" t = .ok (.instant t) := by
  rw [call, find?_standard]
  rfl

theorem call_today {t m : Instant} (h : t.utcMidnight? = some m) :
    standard.call "TODAY" t = .ok (.instant m) := by
  rw [call, find?_standard, if_pos rfl]
  simp only [today, h, Option.map_some]

/-- `TODAY` is the midnight of the date that clocks in UTC show at `NOW`, wherever that date is in
the calendar. It is the only midnight of UTC from which `NOW` is less than a day away. In the course
of time it never goes back, and it changes where `NOW` passes a whole number of days since 1970; the
offset of `NOW` does not count. -/
theorem today_startsDay {now : Instant} (h : now.utcDate.year.natAbs ≤ 9999) :
    ∃ utc today : Instant, now.toUtc? = some utc ∧ utc.date = now.utcDate ∧
      standard.call "NOW" now = .ok (.instant now) ∧
      standard.call "TODAY" now = .ok (.instant today) ∧
      Instant.ofLocal? utc.date 0 0 0 = some today ∧
      (∀ t : Instant,
        t = today ↔ t.IsUtcMidnight ∧ t.nanos ≤ now.nanos ∧ now.nanos < t.nanos + nanosPerDay) ∧
      ∀ later : Instant, later.utcDate.year.natAbs ≤ 9999 → now.nanos ≤ later.nanos →
        ∃ next : Instant, standard.call "TODAY" later = .ok (.instant next) ∧
          today.nanos ≤ next.nanos ∧ (later.nanos = now.nanos → next = today) ∧
          (next ≠ today ↔
            ∃ day : Int, now.nanos < day * nanosPerDay ∧ day * nanosPerDay ≤ later.nanos) := by
  obtain ⟨utc, hutc, -, hzero, hdate⟩ := Instant.toUtc?_of_year h
  obtain ⟨today, hmidnight, hnanos, hoffset⟩ := Instant.exists_utcMidnight? h
  refine ⟨utc, today, hutc, hdate, call_now now, call_today hmidnight, ?_,
    fun t => Instant.eq_midnight_iff hnanos hoffset, ?_⟩
  · rw [← hmidnight, Instant.utcMidnight?, hutc, Option.bind_some, hzero]
  · intro later hlater hle
    obtain ⟨next, hnext, hnanos', hoffset'⟩ := Instant.exists_utcMidnight? hlater
    have hsame : next = today ↔ next.nanos = today.nanos :=
      ⟨fun heq => by rw [heq], fun heq => Instant.eq_of_nanos_eq heq (by rw [hoffset', hoffset])⟩
    refine ⟨next, call_today hnext, ?_, ?_, ?_⟩
    · rw [hnanos, hnanos']
      simp only [nanosPerDay, nanosPerSecond]
      omega
    · intro hmoment
      rw [hsame, hnanos', hnanos, hmoment]
    · rw [ne_eq, hsame, hnanos', hnanos]
      exact Instant.midnight_ne_iff hle

/-- Clocks two hours ahead of UTC begin the leap day while it is still the day before there; clocks
one hour behind have not ended it when March has begun. -/
theorem today_startsDay_leapDay :
    let now : Instant := ⟨1709159400000000000, 7200, by decide⟩
    let later : Instant := ⟨1709253000000000000, -3600, by decide⟩
    let today : Instant := ⟨1709078400000000000, 0, by decide⟩
    now.date = ⟨2024, 2, 29⟩ ∧ now.utcDate = ⟨2024, 2, 28⟩ ∧ later.date = ⟨2024, 2, 29⟩ ∧
      later.utcDate = ⟨2024, 3, 1⟩ ∧ standard.call "TODAY" now = .ok (.instant today) ∧
      ∃ next, standard.call "TODAY" later = .ok (.instant next) ∧ next ≠ today := by
  intro now later today
  have hdate : now.utcDate = ⟨2024, 2, 28⟩ := by decide
  have hdate' : later.utcDate = ⟨2024, 3, 1⟩ := by decide
  have hyear : now.utcDate.year.natAbs ≤ 9999 := by
    rw [hdate]
    decide
  obtain ⟨-, midnight, -, -, -, hcall, -, honly, hlater⟩ := today_startsDay hyear
  obtain ⟨next, hnext, -, -, hdiffers⟩ := hlater later (by rw [hdate']; decide) (by decide)
  obtain rfl : today = midnight :=
    (honly today).2 ⟨Instant.isUtcMidnight_iff.2 ⟨rfl, 19781, rfl⟩, by decide, by decide⟩
  have hne : next ≠ today := hdiffers.2 ⟨19783, by decide, by decide⟩
  exact ⟨by decide, hdate, by decide, hdate', hcall, next, hnext, hne⟩

end FunctionTable

end Compliance
