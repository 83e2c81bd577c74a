import Compliance.Proofs.Calendar
import Compliance.Value.Coercion

/-!
# Compliance.Proofs.Instant.Range

What stays within the calendar, and within sixty-four bits of seconds.

* `Instant.since_inRange`             — the span between two instants.
* `Instant.utcMidnight?_eq_bind`      — the midnight before an instant is a whole number of days.
* `Instant.utcMidnight?_eq_none_iff`  — where there is none in the calendar.
* `Value.instantOfMillis_cases`       — what becomes of a number of milliseconds.
-/

namespace Compliance

open Compliance.Span (nanosPerSecond)

/-- Sixty-four bits hold the whole seconds. -/
def Span.InRange (s : Span) : Prop := Text.fitsInt64 s.seconds = true

theorem SpanUnit.inRange_of_span? {unit : SpanUnit} {amount : Int} {s : Span}
    (h : unit.span? amount = some s) : s.InRange := by
  simp only [SpanUnit.span?] at h
  split at h
  · rename_i hfits
    cases h
    have hseconds : (Span.ofSeconds (amount * unit.seconds)).seconds = amount * unit.seconds :=
      Int.mul_tdiv_cancel _ (by decide)
    rw [Span.InRange, hseconds]
    exact hfits
  · cases h

namespace Instant

/-! ## Spans between instants -/

theorem nanos_bounds (t : Instant) :
    -377705210399000000000 ≤ t.nanos ∧ t.nanos < 253402394399000000000 := by
  have h := t.inCalendar
  simp only [InCalendar, firstSecond, lastSecond, maxOffset, nanosPerSecond] at h
  omega

theorem since_inRange (t u : Instant) : (t.since u).InRange := by
  have ht := t.nanos_bounds
  have hu := u.nanos_bounds
  have habs : (t.nanos - u.nanos).natAbs < 631107604798000000000 := by omega
  have hseconds : ((t.since u).seconds).natAbs = (t.nanos - u.nanos).natAbs / 1000000000 :=
    Int.natAbs_tdiv _ _
  simp only [Span.InRange, Text.fitsInt64, Bool.and_eq_true, decide_eq_true_eq]
  omega

/-! ## Other offsets -/

theorem of?_eq_none_iff {nanos offset : Int} :
    of? nanos offset = none ↔ ¬ InCalendar nanos offset := by
  simp [of?]

theorem of?_eq_some {nanos offset : Int} (h : InCalendar nanos offset) :
    of? nanos offset = some ⟨nanos, offset, h⟩ := dif_pos h

/-! ## Midnights -/

def nanosPerDay : Int := 86400 * nanosPerSecond

theorem ofLocal?_midnight (date : CivilDate) :
    ofLocal? date 0 0 0 = of? (date.toDays * nanosPerDay) 0 := by
  have hnanos : (date.toDays * 86400 + ((0 : Nat) : Int) - 0) * nanosPerSecond + ((0 : Nat) : Int) =
      date.toDays * nanosPerDay := by
    simp only [nanosPerDay, nanosPerSecond]
    omega
  rw [ofLocal?, hnanos]

theorem date_utc {nanos : Int} (h : InCalendar nanos 0) :
    (⟨nanos, 0, h⟩ : Instant).date = CivilDate.ofDays (nanos / nanosPerDay) := by
  have hday : (nanos / nanosPerSecond + 0) / 86400 = nanos / nanosPerDay := by
    simp only [nanosPerDay, nanosPerSecond]
    omega
  rw [date, localSecond, hday]

/-- Midnight of the date in UTC is the last whole number of days since 1970. -/
theorem utcMidnight?_eq_bind (t : Instant) :
    t.utcMidnight? = t.toUtc?.bind fun _ => of? (t.nanos / nanosPerDay * nanosPerDay) 0 := by
  rw [utcMidnight?]
  by_cases h : InCalendar t.nanos 0
  · rw [toUtc?, of?_eq_some h, Option.bind_some, Option.bind_some, date_utc h, ofLocal?_midnight,
      CivilDate.toDays_ofDays]
  · rw [toUtc?, of?_eq_none_iff.2 h]
    rfl

/-- The calendar begins at midnight, so that the midnight before a moment in it is in it, too. -/
theorem inCalendar_midnight {nanos : Int} (h : InCalendar nanos 0) :
    InCalendar (nanos / nanosPerDay * nanosPerDay) 0 := by
  simp only [InCalendar, firstSecond, lastSecond, maxOffset, nanosPerDay, nanosPerSecond] at h ⊢
  omega

theorem utcMidnight?_eq_none_iff (t : Instant) : t.utcMidnight? = none ↔ t.toUtc? = none := by
  rw [utcMidnight?_eq_bind]
  by_cases h : InCalendar t.nanos 0
  · simp [toUtc?, of?_eq_some h, of?_eq_some (inCalendar_midnight h)]
  · simp [toUtc?, of?_eq_none_iff.2 h]

end Instant

/-- The nanoseconds of so many milliseconds, without parts of a nanosecond. There are none if they
are too many for a decimal. -/
def Decimal.nanosOfMillis? (ms : Decimal) : Option Int := (ms.times? .million).map truncate

/-- So many milliseconds after 1970 there is no moment of the calendar. -/
def Decimal.LeavesCalendar (ms : Decimal) : Prop :=
  ∀ nanos, ms.nanosOfMillis? = some nanos → ¬ Instant.InCalendar nanos 0

namespace Value

theorem instantOfMillis_of_nanos {ms : Decimal} {nanos : Int}
    (h : ms.nanosOfMillis? = some nanos) :
    instantOfMillis ms =
      (Instant.ofUnixNanos? nanos).elim (.error (.overflow (.moment ms))) .ok := by
  rw [Decimal.nanosOfMillis?] at h
  cases ht : Instant.ofUnixNanos? nanos with
  | none => simp [instantOfMillis, h, ht]
  | some t => simp [instantOfMillis, h, ht]

/-- A number of milliseconds is a moment of the calendar, or refused as out of range. -/
theorem instantOfMillis_cases (ms : Decimal) :
    (¬ ms.LeavesCalendar ∧
      ∃ t, instantOfMillis ms = .ok t ∧ ms.nanosOfMillis? = some t.nanos) ∨
    (ms.LeavesCalendar ∧ ∃ o, instantOfMillis ms = .error (.overflow o)) := by
  cases hn : ms.nanosOfMillis? with
  | none =>
    have herror : instantOfMillis ms = .error (.overflow (.milliseconds ms)) := by
      rw [Decimal.nanosOfMillis?] at hn
      simp only [instantOfMillis, hn]
    exact .inr ⟨by simp [Decimal.LeavesCalendar, hn], _, herror⟩
  | some nanos =>
    have hmillis := instantOfMillis_of_nanos hn
    rw [Instant.ofUnixNanos?] at hmillis
    by_cases hin : Instant.InCalendar nanos 0
    · rw [Instant.of?_eq_some hin] at hmillis
      exact .inl ⟨fun h => h nanos hn hin, _, hmillis, rfl⟩
    · rw [Instant.of?_eq_none_iff.2 hin] at hmillis
      exact .inr ⟨by simpa [Decimal.LeavesCalendar, hn], _, hmillis⟩

theorem instantOfMillis_of_leavesCalendar {ms : Decimal} (h : ms.LeavesCalendar) :
    ∃ o, instantOfMillis ms = .error (.overflow o) := by
  rcases instantOfMillis_cases ms with ⟨hstays, -⟩ | ⟨-, ho⟩
  · exact absurd h hstays
  · exact ho

end Value

end Compliance
