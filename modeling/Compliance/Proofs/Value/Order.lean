import Compliance.Proofs.Decimal.Product
import Compliance.Proofs.Instant.Range
import Compliance.Proofs.Value.Trichotomy

/-!
# Compliance.Proofs.Value.Order

The order of values is strict, whatever they are compared as.

* `Value.order_swap`        — the order of two values read from the other side.
* `Value.IsLess`            — a value is less than another one, as a number, an instant or a span.
* `Decimal.instant?_mono`   — more milliseconds are not an earlier moment.
* `Value.order_lawful`      — the order is the same from either side, irreflexive and transitive.
-/

namespace Compliance

/-! ## From the other side -/

theorem Decimal.order_swap (m n : Decimal) : n.order m = (m.order n).swap := by
  rw [order_eq_compare, order_eq_compare]
  exact Std.OrientedOrd.eq_swap

theorem Instant.order_eq_compare (t u : Instant) : t.order u = compare t.nanos u.nanos := rfl

theorem Instant.order_swap (t u : Instant) : u.order t = (t.order u).swap := by
  rw [order_eq_compare, order_eq_compare]
  exact Std.OrientedOrd.eq_swap

/-- The failure of the same comparison, made from the other side. -/
def Failure.exchanged : Failure → Failure
  | .incomparable v w => .incomparable w v
  | e => e

namespace Value

variable {v w u : Value}

theorem isTemporal_comm (v w : Value) : isTemporal w v = isTemporal v w := by
  cases v <;> cases w <;> rfl

theorem numberOrder?_swap (v w : Value) :
    numberOrder? w v = (numberOrder? v w).map Ordering.swap := by
  rw [numberOrder?, numberOrder?]
  cases v.number? with
  | none => cases w.number? <;> rfl
  | some m =>
    cases w.number? with
    | none => rfl
    | some n => exact congrArg some (m.order_swap n)

theorem instantOrder?_swap (v w : Value) :
    instantOrder? w v = (instantOrder? v w).map Ordering.swap := by
  rw [instantOrder?, instantOrder?, isTemporal_comm]
  split
  · cases v.instant? with
    | none => cases w.instant? <;> rfl
    | some t =>
      cases w.instant? with
      | none => rfl
      | some u => exact congrArg some (t.order_swap u)
  · rfl

theorem spanOrder?_swap (v w : Value) : spanOrder? w v = (spanOrder? v w).map Ordering.swap := by
  cases v with
  | span s =>
    cases w with
    | span t => exact congrArg some Std.OrientedOrd.eq_swap
    | _ => rfl
  | _ => cases w <;> rfl

theorem order_swap (v w : Value) :
    order w v = ((order v w).map (Option.map Ordering.swap)).mapError Failure.exchanged := by
  rw [order, order, Bool.or_comm, numberOrder?_swap, instantOrder?_swap, spanOrder?_swap,
    ← Option.map_or, ← Option.map_or]
  split
  · rfl
  · cases (numberOrder? v w).or ((instantOrder? v w).or (spanOrder? v w)) <;> rfl

theorem ordered_swap (v w : Value) (test : Ordering → Bool) :
    ordered w v test = (ordered v w fun o => test o.swap).mapError Failure.exchanged := by
  rw [ordered, ordered, order_swap]
  cases order v w with
  | error e => rfl
  | ok o => cases o <;> rfl

theorem compare_greater (v w : Value) :
    compare w .greater v = (compare v .less w).mapError Failure.exchanged := by
  have htest : (fun o : Ordering => o.swap == .gt) = (· == .lt) := by
    funext o
    cases o <;> rfl
  rw [compare, compare, ordered_swap, htest]

theorem compare_greaterEqual (v w : Value) :
    compare w .greaterEqual v = (compare v .lessEqual w).mapError Failure.exchanged := by
  have htest : (fun o : Ordering => o.swap != .lt) = (· != .gt) := by
    funext o
    cases o <;> rfl
  rw [compare, compare, ordered_swap, htest]

/-! ## Less -/

/-- A value is less than another one, as a number, an instant or a span. -/
inductive IsLess : Value → Value → Prop where
  | number {v w : Value} {m n : Decimal} (hv : v.number? = some m) (hw : w.number? = some n)
      (h : m.value < n.value) : IsLess v w
  | instant {v w : Value} {t u : Instant} (htemporal : isTemporal v w = true)
      (hv : v.instant? = some t) (hw : w.instant? = some u) (h : t.nanos < u.nanos) : IsLess v w
  | span {s t : Span} (h : s.nanos < t.nanos) : IsLess (.span s) (.span t)

/-- Only numbers themselves stand for numbers and for instants. -/
theorem eq_number_of_instant? {m : Decimal} {t : Instant} (hm : v.number? = some m)
    (ht : v.instant? = some t) : v = .number m := by
  cases v with
  | number d =>
    cases hm
    rfl
  | text s =>
    rw [number?_of_instant?_text ht] at hm
    cases hm
  | _ => cases hm

theorem eq_instant_of_isTemporal {m : Decimal} {t : Instant} (hm : v.number? = some m)
    (ht : v.instant? = some t) (h : isTemporal v w = true) : ∃ t, w = .instant t := by
  obtain rfl := eq_number_of_instant? hm ht
  rcases isTemporal_cases h with ⟨_, ⟨⟩⟩ | hw | ⟨_, _, ⟨⟩, -⟩
  exact hw

/-- Values that are compared as instants are not both numbers, too. -/
theorem numberOrder?_of_instants {t u : Instant} (h : isTemporal v w = true)
    (hv : v.instant? = some t) (hw : w.instant? = some u) : numberOrder? v w = none := by
  rw [numberOrder?]
  split
  · rename_i m n hm hn
    obtain ⟨x, rfl⟩ := eq_instant_of_isTemporal hm hv h
    cases hn
  · rfl

theorem isNull_of_number? {m : Decimal} (h : v.number? = some m) : v.isNull = false := by
  cases v with
  | null => cases h
  | _ => rfl

theorem isNull_of_instant? {t : Instant} (h : v.instant? = some t) : v.isNull = false := by
  cases v with
  | null => cases h
  | _ => rfl

theorem OrderedAs.order_eq {o : Ordering} (h : OrderedAs v w o) : order v w = .ok (some o) := by
  cases h with
  | @numbers _ _ m n hv hw =>
    have hnumber : numberOrder? v w = some (m.order n) := by rw [numberOrder?, hv, hw]
    rw [order, isNull_of_number? hv, isNull_of_number? hw, hnumber]
    rfl
  | @instants _ _ t u htemporal hv hw =>
    have hinstant : instantOrder? v w = some (t.order u) := by
      rw [instantOrder?, if_pos htemporal, hv, hw]
    rw [order, isNull_of_instant? hv, isNull_of_instant? hw,
      numberOrder?_of_instants htemporal hv hw, hinstant]
    rfl
  | spans s t => rfl

theorem holds_less_of_orderedAs {o : Ordering} (h : OrderedAs v w o) :
    Holds v .less w ↔ o = .lt := by
  rw [← beq_iff_eq]
  exact ordered_of_order h.order_eq _

theorem holds_less_of_numbers {m n : Decimal} (hv : v.number? = some m) (hw : w.number? = some n) :
    Holds v .less w ↔ m.value < n.value := by
  rw [holds_less_of_orderedAs (.numbers hv hw), Decimal.order_eq_compare, compare_lt_iff_lt]

theorem holds_less_of_instants {t u : Instant} (h : isTemporal v w = true)
    (hv : v.instant? = some t) (hw : w.instant? = some u) :
    Holds v .less w ↔ t.nanos < u.nanos := by
  rw [holds_less_of_orderedAs (.instants h hv hw), Instant.order_eq_compare, compare_lt_iff_lt]

theorem holds_less_of_spans {s t : Span} :
    Holds (.span s) .less (.span t) ↔ s.nanos < t.nanos := by
  rw [holds_less_of_orderedAs (.spans s t), compare_lt_iff_lt]

theorem holds_less_iff : Holds v .less w ↔ IsLess v w := by
  constructor
  · intro h
    have horder : ∃ o, order v w = .ok (some o) := by
      rw [Holds, compare, ordered] at h
      cases ho : order v w with
      | error e =>
        rw [ho] at h
        cases h
      | ok o =>
        cases o with
        | none =>
          rw [ho] at h
          cases h
        | some o => exact ⟨o, rfl⟩
    obtain ⟨o, ho⟩ := horder
    cases orderedAs_of_order ho with
    | numbers hv hw => exact .number hv hw ((holds_less_of_numbers hv hw).1 h)
    | instants htemporal hv hw =>
      exact .instant htemporal hv hw ((holds_less_of_instants htemporal hv hw).1 h)
    | spans s t => exact .span (holds_less_of_spans.1 h)
  · intro h
    cases h with
    | number hv hw h => exact (holds_less_of_numbers hv hw).2 h
    | instant htemporal hv hw h => exact (holds_less_of_instants htemporal hv hw).2 h
    | span h => exact holds_less_of_spans.2 h

theorem not_holds_less_self (v : Value) : ¬ Holds v .less v := by
  rw [holds_less_iff]
  intro h
  cases h with
  | number hm hn h =>
    cases hm.symm.trans hn
    exact lt_irrefl _ h
  | instant _ ht hu h =>
    cases ht.symm.trans hu
    exact lt_irrefl _ h
  | span h => exact lt_irrefl _ h

end Value

/-! ## Milliseconds -/

namespace Decimal

variable {m n : Decimal}

/-- More milliseconds are not fewer nanoseconds. -/
theorem nanosOfMillis?_mono {x y : ℤ} (hm : m.nanosOfMillis? = some x)
    (hn : n.nanosOfMillis? = some y) (h : m.value ≤ n.value) : x ≤ y := by
  obtain ⟨d, hd, rfl⟩ := Option.map_eq_some_iff.1 hm
  obtain ⟨e, he, rfl⟩ := Option.map_eq_some_iff.1 hn
  have hmillion : 0 ≤ million.value := by norm_num [value, million]
  exact truncate_times?_mono hd he (mul_le_mul_of_nonneg_right h hmillion)

theorem instant?_number_eq_some {t : Instant} :
    (Value.number m).instant? = some t ↔
      ∃ x, m.nanosOfMillis? = some x ∧ Instant.ofUnixNanos? x = some t := by
  rw [Value.instant?, Value.toInstant]
  cases hm : m.nanosOfMillis? with
  | none =>
    rw [nanosOfMillis?] at hm
    simp [Value.instantOfMillis, hm, Except.map]
  | some x =>
    rw [Value.instantOfMillis_of_nanos hm]
    cases hx : Instant.ofUnixNanos? x <;> simp [hx, Except.map]

theorem nanosOfMillis?_of_instant? {t : Instant} (hm : (Value.number m).instant? = some t) :
    m.nanosOfMillis? = some t.nanos := by
  rw [Value.instant?, Value.toInstant] at hm
  rcases Value.instantOfMillis_cases m with ⟨-, u, hu, hnanos⟩ | ⟨-, o, ho⟩
  · rw [hu] at hm
    cases hm
    exact hnanos
  · rw [ho] at hm
    cases hm

/-- More milliseconds are not an earlier moment; parts of a nanosecond can make them the same. -/
theorem instant?_mono {t u : Instant} (hm : (Value.number m).instant? = some t)
    (hn : (Value.number n).instant? = some u) (h : m.value ≤ n.value) : t.nanos ≤ u.nanos :=
  nanosOfMillis?_mono (nanosOfMillis?_of_instant? hm) (nanosOfMillis?_of_instant? hn) h

end Decimal

/-! ## Transitivity -/

namespace Value

variable {v w u : Value}

/-- What has an order with an instant stands for one. -/
theorem exists_instant_of_order_instant {t : Instant} {o : Ordering}
    (h : order v (.instant t) = .ok (some o)) : ∃ s, v.instant? = some s := by
  cases orderedAs_of_order h with
  | numbers _ ht => cases ht
  | instants _ hv => exact ⟨_, hv⟩

theorem exists_instant_of_instant_order {t : Instant} {o : Ordering}
    (h : order (.instant t) v = .ok (some o)) : ∃ s, v.instant? = some s := by
  cases orderedAs_of_order h with
  | numbers ht => cases ht
  | instants _ _ hv => exact ⟨_, hv⟩

/-- Two numbers below an instant. -/
theorem IsLess.trans_number_instant {m n : Decimal} {t r : Instant} {o : Ordering}
    (hv : v.number? = some m) (h : m.value < n.value) (hr : (Value.number n).instant? = some r)
    (h' : r.nanos < t.nanos) (ho : order v (.instant t) = .ok (some o)) :
    IsLess v (.instant t) := by
  obtain ⟨s, hs⟩ := exists_instant_of_order_instant ho
  obtain rfl := eq_number_of_instant? hv hs
  have hle := Decimal.instant?_mono hs hr h.le
  exact .instant rfl hs rfl (hle.trans_lt h')

/-- Two numbers above an instant. -/
theorem IsLess.trans_instant_number {m n : Decimal} {t r : Instant} {o : Ordering}
    (hr : (Value.number m).instant? = some r) (h : t.nanos < r.nanos) (hu : u.number? = some n)
    (h' : m.value < n.value) (ho : order (.instant t) u = .ok (some o)) :
    IsLess (.instant t) u := by
  obtain ⟨s, hs⟩ := exists_instant_of_instant_order ho
  obtain rfl := eq_number_of_instant? hu hs
  have hle := Decimal.instant?_mono hr hs h'.le
  exact .instant rfl rfl hs (h.trans_le hle)

/-- Numbers whose moments lie on either side of an instant. -/
theorem IsLess.trans_around {m n : Decimal} {s t r : Instant}
    (hs : (Value.number m).instant? = some s) (h : s.nanos < t.nanos)
    (hr : (Value.number n).instant? = some r) (h' : t.nanos < r.nanos) :
    IsLess (Value.number m) (Value.number n) := by
  refine .number rfl rfl (not_le.1 fun hle => ?_)
  have hback := Decimal.instant?_mono hr hs hle
  omega

theorem IsLess.trans {o : Ordering} (h : IsLess v w) (h' : IsLess w u)
    (ho : order v u = .ok (some o)) : IsLess v u := by
  cases h with
  | number hv hw hlt =>
    cases h' with
    | number hw' hu hlt' =>
      cases hw.symm.trans hw'
      exact .number hv hu (hlt.trans hlt')
    | instant htemporal hw' hu hlt' =>
      obtain ⟨t, rfl⟩ := eq_instant_of_isTemporal hw hw' htemporal
      obtain rfl := eq_number_of_instant? hw hw'
      cases hu
      exact .trans_number_instant hv hlt hw' hlt' ho
    | span => cases hw
  | instant htemporal hv hw hlt =>
    cases h' with
    | number hw' hu hlt' =>
      rw [← isTemporal_comm] at htemporal
      obtain ⟨t, rfl⟩ := eq_instant_of_isTemporal hw' hw htemporal
      obtain rfl := eq_number_of_instant? hw' hw
      cases hv
      exact .trans_instant_number hw hlt hu hlt' ho
    | instant htemporal' hw' hu hlt' =>
      cases hw.symm.trans hw'
      -- the outer values are compared as numbers only where the middle one is an instant
      cases orderedAs_of_order ho with
      | numbers hm hn =>
        obtain rfl := eq_number_of_instant? hm hv
        obtain rfl := eq_number_of_instant? hn hu
        exact .trans_around hv hlt hu hlt'
      | instants htemporal'' _ _ => exact .instant htemporal'' hv hu (hlt.trans hlt')
      | spans => cases hv
    | span => cases hw
  | span hlt =>
    cases h' with
    | number hw => cases hw
    | instant _ hw => cases hw
    | span hlt' => exact .span (hlt.trans hlt')

/-- The order of two values and the comparisons made by it are the same from either side, no value
is less than itself, and the order is transitive, across all kinds of values that are compared with
each other. -/
theorem order_lawful (v w u : Value) :
    order w v = ((order v w).map (Option.map Ordering.swap)).mapError Failure.exchanged ∧
    compare w .greater v = (compare v .less w).mapError Failure.exchanged ∧
    compare w .greaterEqual v = (compare v .lessEqual w).mapError Failure.exchanged ∧
    ¬ Holds v .less v ∧
    (Holds v .less w → Holds w .less u → (∃ o, order v u = .ok (some o)) → Holds v .less u) := by
  refine ⟨order_swap v w, compare_greater v w, compare_greaterEqual v w, not_holds_less_self v, ?_⟩
  rintro hvw hwu ⟨o, ho⟩
  exact holds_less_iff.2 ((holds_less_iff.1 hvw).trans (holds_less_iff.1 hwu) ho)

/-- Half a millisecond after 1970 comes before the first millisecond, told two hours ahead of UTC,
and this one before one and a half; the same goes for texts on either side of it. -/
theorem order_lawful_millisecond :
    let half : Value := .number ⟨5, 1, by decide, by decide⟩
    let one : Value := .instant ⟨1000000, 7200, by decide⟩
    let more : Value := .number ⟨15, 1, by decide, by decide⟩
    let day : Value := .text " 1970-01-01 "
    let second : Value := .text "1969-12-31T23:00:01-01:00"
    Holds half .less one ∧ Holds one .less more ∧ Holds half .less more ∧
      Holds day .less one ∧ Holds one .less second ∧ Holds day .less second := by
  intro half one more day second
  have hhalf : half.instant? = some ⟨500000, 0, by decide⟩ := by decide +kernel
  have hmore : more.instant? = some ⟨1500000, 0, by decide⟩ := by decide +kernel
  have hday : day.instant? = some .epoch := by decide +kernel
  have hsecond : second.instant? = some ⟨1000000000, -3600, by decide⟩ := by decide +kernel
  have hfirst : Holds half .less one := (holds_less_of_instants rfl hhalf rfl).2 (by decide)
  have hlast : Holds one .less more := (holds_less_of_instants rfl rfl hmore).2 (by decide)
  have hfirst' : Holds day .less one := (holds_less_of_instants rfl hday rfl).2 (by decide)
  have hlast' : Holds one .less second := (holds_less_of_instants rfl rfl hsecond).2 (by decide)
  have htemporal : isTemporal day second = true := by decide +kernel
  have horder := (OrderedAs.numbers (v := half) (w := more) rfl rfl).order_eq
  have horder' := (OrderedAs.instants htemporal hday hsecond).order_eq
  obtain ⟨-, -, -, -, htrans⟩ := order_lawful half one more
  obtain ⟨-, -, -, -, htrans'⟩ := order_lawful day one second
  exact ⟨hfirst, hlast, htrans hfirst hlast ⟨_, horder⟩, hfirst', hlast',
    htrans' hfirst' hlast' ⟨_, horder'⟩⟩

end Value

end Compliance
