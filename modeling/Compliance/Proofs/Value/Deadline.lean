import Compliance.Proofs.Instant.Range
import Compliance.Value.Test

/-!
# Compliance.Proofs.Value.Deadline

What the tests on time make of the moments of values.

* `Instant.Reaches`               — the end of a span that begins at an instant is in the calendar.
* `Value.within_span`, `Value.expiresAfter_span` — the tests on a span, in nanoseconds.
* `Value.timeTests_of_sameMoment` — values of one moment, told in different offsets.
* `Value.within_expiresAfter`     — the two tests on a span agree up to its end, and are monotone.
-/

namespace Compliance

namespace Instant

variable {t u : Instant}

theorem sameMoment_iff : t.sameMoment u = true ↔ t.nanos = u.nanos := beq_iff_eq

theorem order_left_congr (h : t.nanos = u.nanos) (x : Instant) : t.order x = u.order x := by
  rw [order, order, h]

theorem order_right_congr (h : t.nanos = u.nanos) (x : Instant) : x.order t = x.order u := by
  rw [order, order, h]

theorem order_beq_lt : (t.order u == .lt) = decide (t.nanos < u.nanos) := by
  rw [order]
  split
  · rename_i h
    exact (decide_eq_true h).symm
  · rename_i h
    rw [decide_eq_false h]
    split <;> rfl

/-- The span that begins at the instant ends in the calendar, told in the offset of the instant. -/
def Reaches (t : Instant) (s : Span) : Prop := InCalendar (t.nanos + s.nanos) t.offset

instance (t : Instant) (s : Span) : Decidable (t.Reaches s) :=
  inferInstanceAs (Decidable (InCalendar _ _))

end Instant

namespace Value

variable {v v' : Value} {t t' : Instant}

/-! ## Single tests -/

theorem orderedInTime_left_congr (hv : v.toInstant = .ok (some t))
    (hv' : v'.toInstant = .ok (some t')) (h : t.nanos = t'.nanos) (other : Value)
    (test : Ordering → Bool) : orderedInTime v other test = orderedInTime v' other test := by
  simp only [orderedInTime, hv, hv']
  cases other.toInstant with
  | error e => rfl
  | ok x =>
    cases x with
    | none => rfl
    | some x => simp only [Instant.order_left_congr h]

theorem orderedInTime_right_congr (hv : v.toInstant = .ok (some t))
    (hv' : v'.toInstant = .ok (some t')) (h : t.nanos = t'.nanos) (other : Value)
    (test : Ordering → Bool) : orderedInTime other v test = orderedInTime other v' test := by
  simp only [orderedInTime, hv, hv']
  cases other.toInstant with
  | error e => rfl
  | ok x =>
    cases x with
    | none => rfl
    | some x => simp only [Instant.order_right_congr h]

theorem toInstant_text {s : String} (h : Instant.ofText? (Text.trim s.toList) = some t) :
    toInstant (.text s) = .ok (some t) := by
  rw [toInstant, h]

theorem eq_span_of_toSpan {w : Value} {s : Span} (h : w.toSpan = .ok s) : w = .span s := by
  cases w with
  | span x =>
    cases h
    rfl
  | _ => cases h

theorem within_span (hv : v.toInstant = .ok (some t)) (s : Span) (now : Instant) :
    within v (.span s) now = .ok (decide (now.nanos ≤ t.nanos + s.nanos)) := by
  have hsince : now.nanos - t.nanos ≤ s.nanos ↔ now.nanos ≤ t.nanos + s.nanos := by omega
  simp only [within, toSpan, hv, Instant.since, hsince]

/-- The end of the span has to be in the calendar. -/
theorem expiresAfter_span (hv : v.toInstant = .ok (some t)) (s : Span) (now : Instant) :
    expiresAfter v (.span s) now =
      if t.Reaches s then .ok (decide (now.nanos < t.nanos + s.nanos))
      else .error (.overflow (.sum t s)) := by
  simp only [expiresAfter, toSpan, hv, Instant.shift?]
  by_cases h : t.Reaches s
  · rw [if_pos h, Instant.of?_eq_some h]
    exact congrArg Except.ok Instant.order_beq_lt
  · rw [if_neg h, Instant.of?_eq_none_iff.2 h]

theorem isOk_expiresAfter_span (hv : v.toInstant = .ok (some t)) (s : Span) (now : Instant) :
    (∃ b, expiresAfter v (.span s) now = .ok b) ↔ t.Reaches s := by
  rw [expiresAfter_span hv]
  by_cases h : t.Reaches s
  · simp [h]
  · simp [h]

/-! ## One moment -/

/-- The same answer, or a failure both times. -/
def Alike (x y : Except Failure Bool) : Prop := x.toOption = y.toOption

theorem within_congr (hv : v.toInstant = .ok (some t)) (hv' : v'.toInstant = .ok (some t'))
    (h : t.nanos = t'.nanos) (window : Value) (now : Instant) :
    within v window now = within v' window now := by
  cases hw : window.toSpan with
  | error e => simp only [within, hw]
  | ok s =>
    obtain rfl := eq_span_of_toSpan hw
    rw [within_span hv, within_span hv', h]

theorem expiresAfter_alike_span (hv : v.toInstant = .ok (some t))
    (hv' : v'.toInstant = .ok (some t')) (h : t.nanos = t'.nanos) (s : Span) (now : Instant) :
    Alike (expiresAfter v (.span s) now) (expiresAfter v' (.span s) now) ↔
      (t.Reaches s ↔ t'.Reaches s) := by
  rw [Alike, expiresAfter_span hv, expiresAfter_span hv', h]
  by_cases ht : t.Reaches s <;> by_cases ht' : t'.Reaches s <;> simp [ht, ht', Except.toOption]

/-- Values of one moment pass the same tests on time, on either side of `BEFORE` and `AFTER`, and
with any window. Only the end of a span that begins at the moment is looked for in the calendar as
it is told in the offset of the value: where it is found there for one of the values and not for the
other, the one gets its answer and the other a failure. -/
theorem timeTests_of_sameMoment (hv : v.toInstant = .ok (some t))
    (hv' : v'.toInstant = .ok (some t')) (h : t.sameMoment t' = true) (other : Value)
    (now : Instant) :
    before v other = before v' other ∧ after v other = after v' other ∧
    before other v = before other v' ∧ after other v = after other v' ∧
    within v other now = within v' other now ∧
    (Alike (expiresAfter v other now) (expiresAfter v' other now) ↔
      ∀ s, other = .span s → (t.Reaches s ↔ t'.Reaches s)) ∧
    (∀ s, other = .span s → t.Reaches s → ¬ t'.Reaches s →
      expiresAfter v other now = .ok (decide (now.nanos < t.nanos + s.nanos)) ∧
      expiresAfter v' other now = .error (.overflow (.sum t' s))) := by
  rw [Instant.sameMoment_iff] at h
  refine ⟨orderedInTime_left_congr hv hv' h other _, orderedInTime_left_congr hv hv' h other _,
    orderedInTime_right_congr hv hv' h other _, orderedInTime_right_congr hv hv' h other _,
    within_congr hv hv' h other now, ?_, ?_⟩
  · cases hw : other.toSpan with
    | error e =>
      -- what is no span is refused before the value is looked at
      have hnone : ∀ s, other ≠ .span s := by
        rintro s rfl
        cases hw
      have halike : Alike (expiresAfter v other now) (expiresAfter v' other now) := by
        simp only [Alike, expiresAfter, hw]
      exact iff_of_true halike fun s hs => absurd hs (hnone s)
    | ok s =>
      obtain rfl := eq_span_of_toSpan hw
      rw [expiresAfter_alike_span hv hv' h]
      constructor
      · rintro hreach s ⟨⟩
        exact hreach
      · intro hreach
        exact hreach s rfl
  · rintro s rfl ht ht'
    rw [expiresAfter_span hv, expiresAfter_span hv', if_pos ht, if_neg ht']
    exact ⟨rfl, rfl⟩

/-- Two hours ahead of UTC, the last hour and a half of the last day in UTC is behind it. -/
theorem expiresAfter_not_alike :
    ∃ t t' : Instant,
      toInstant (.text "9999-12-31T23:30:00+02:00") = .ok (some t) ∧
      toInstant (.text "9999-12-31T21:30:00Z") = .ok (some t') ∧ t.sameMoment t' = true ∧
      expiresAfter (.text "9999-12-31T23:30:00+02:00") (.span (.ofSeconds 3600)) t' =
        .error (.overflow (.sum t (.ofSeconds 3600))) ∧
      expiresAfter (.text "9999-12-31T21:30:00Z") (.span (.ofSeconds 3600)) t' = .ok true := by
  have ht : Instant.ofText? (Text.trim "9999-12-31T23:30:00+02:00".toList) =
      some ⟨253402291800000000000, 7200, by decide⟩ := by decide +kernel
  have ht' : Instant.ofText? (Text.trim "9999-12-31T21:30:00Z".toList) =
      some ⟨253402291800000000000, 0, by decide⟩ := by decide +kernel
  refine ⟨_, _, toInstant_text ht, toInstant_text ht', rfl, ?_, ?_⟩
  · rw [expiresAfter_span (toInstant_text ht), if_neg (by decide)]
  · rw [expiresAfter_span (toInstant_text ht'), if_pos (by decide)]
    rfl

/-- The first moment of 1970 as a number, and told in an offset of two hours. -/
theorem timeTests_of_sameMoment_epoch :
    toInstant (.number .zero) = .ok (some .epoch) ∧
    Instant.epoch.sameMoment ⟨0, 7200, by decide⟩ = true ∧
    before (.number .zero) (.text "1970-01-01T00:00:01Z") =
      before (.instant ⟨0, 7200, by decide⟩) (.text "1970-01-01T00:00:01Z") ∧
    Alike (expiresAfter (.number .zero) (.span (.ofSeconds 60)) .epoch)
      (expiresAfter (.instant ⟨0, 7200, by decide⟩) (.span (.ofSeconds 60)) .epoch) := by
  have hzero : toInstant (.number .zero) = .ok (some .epoch) := rfl
  have hahead : toInstant (.instant ⟨0, 7200, by decide⟩) = .ok (some ⟨0, 7200, by decide⟩) := rfl
  obtain ⟨hbefore, -⟩ :=
    timeTests_of_sameMoment hzero hahead rfl (.text "1970-01-01T00:00:01Z") .epoch
  obtain ⟨-, -, -, -, -, halike, -⟩ :=
    timeTests_of_sameMoment hzero hahead rfl (.span (.ofSeconds 60)) .epoch
  refine ⟨hzero, rfl, hbefore, halike.2 ?_⟩
  rintro s ⟨⟩
  decide

/-! ## Windows -/

theorem within_mono (hv : v.toInstant = .ok (some t)) {s s' : Span} {now now' : Instant}
    (hs : s.nanos ≤ s'.nanos) (hnow : now'.nanos ≤ now.nanos)
    (h : within v (.span s) now = .ok true) : within v (.span s') now' = .ok true := by
  rw [within_span hv] at h ⊢
  simp only [Except.ok.injEq, decide_eq_true_eq] at h ⊢
  omega

theorem expiresAfter_mono (hv : v.toInstant = .ok (some t)) {s s' : Span} {now now' : Instant}
    (hs : s.nanos ≤ s'.nanos) (hnow : now'.nanos ≤ now.nanos) (hreach : t.Reaches s')
    (h : expiresAfter v (.span s) now = .ok true) : expiresAfter v (.span s') now' = .ok true := by
  rw [expiresAfter_span hv] at h ⊢
  rw [if_pos hreach]
  split at h
  · simp only [Except.ok.injEq, decide_eq_true_eq] at h ⊢
    omega
  · cases h

/-- Where an instant stands for the value, `WITHIN` has an answer for every window, and `EXPIRES
AFTER` for those that end in the calendar. What has not expired is within the window; only at the
very end of it the two differ. Both hold on for earlier instants and longer windows. -/
theorem within_expiresAfter (hv : v.toInstant = .ok (some t)) (s : Span) (now : Instant) :
    (∃ b, within v (.span s) now = .ok b) ∧
    ((∃ b, expiresAfter v (.span s) now = .ok b) ↔ t.Reaches s) ∧
    (∀ b b', within v (.span s) now = .ok b → expiresAfter v (.span s) now = .ok b' →
      (b' = true → b = true) ∧ (b ≠ b' ↔ now.nanos = t.nanos + s.nanos)) ∧
    (∀ (s' : Span) (now' : Instant), s.nanos ≤ s'.nanos → now'.nanos ≤ now.nanos →
      within v (.span s) now = .ok true → within v (.span s') now' = .ok true) ∧
    (∀ (s' : Span) (now' : Instant), s.nanos ≤ s'.nanos → now'.nanos ≤ now.nanos →
      (∃ b, expiresAfter v (.span s') now' = .ok b) →
      expiresAfter v (.span s) now = .ok true → expiresAfter v (.span s') now' = .ok true) := by
  refine ⟨⟨_, within_span hv s now⟩, isOk_expiresAfter_span hv s now, ?_, ?_, ?_⟩
  · intro b b' hb hb'
    have hreach := (isOk_expiresAfter_span hv s now).1 ⟨b', hb'⟩
    rw [within_span hv] at hb
    rw [expiresAfter_span hv, if_pos hreach] at hb'
    cases hb
    cases hb'
    simp only [decide_eq_true_eq, ne_eq, decide_eq_decide]
    omega
  · intro s' now' hs hnow
    exact within_mono hv hs hnow
  · intro s' now' hs hnow hok
    exact expiresAfter_mono hv hs hnow ((isOk_expiresAfter_span hv s' now').1 hok)

/-- At the end of a window of minus one minute, and in a longer one. -/
theorem within_expiresAfter_end :
    let now : Instant := ⟨-60000000000, 0, by decide⟩
    toInstant (.number .zero) = .ok (some .epoch) ∧
    within (.number .zero) (.span (.ofSeconds (-60))) now = .ok true ∧
    expiresAfter (.number .zero) (.span (.ofSeconds (-60))) now = .ok false ∧
    within (.number .zero) (.span (.ofSeconds 0)) now = .ok true := by
  intro now
  have hzero : toInstant (.number .zero) = .ok (some .epoch) := rfl
  obtain ⟨⟨b, hb⟩, hreach, hboth, hmono, -⟩ := within_expiresAfter hzero (.ofSeconds (-60)) now
  obtain ⟨b', hb'⟩ := hreach.2 (by decide)
  obtain ⟨himp, hdiffer⟩ := hboth b b' hb hb'
  have hne : b ≠ b' := hdiffer.2 rfl
  have hends : b = true ∧ b' = false := by
    cases b' with
    | true => exact absurd (himp rfl) hne
    | false => exact ⟨by simpa using hne, rfl⟩
  rw [hends.1] at hb
  rw [hends.2] at hb'
  exact ⟨hzero, hb, hb', hmono (.ofSeconds 0) now (by decide) (Int.le_refl _) hb⟩

end Value

end Compliance
