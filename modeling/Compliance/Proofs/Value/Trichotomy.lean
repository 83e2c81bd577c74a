import Compliance.Proofs.Value.Coercion
import Compliance.Value.Test

/-!
# Compliance.Proofs.Value.Trichotomy

Equality and order of values agree, except on texts that spell one instant in two ways.

* `Value.OrderedAs`      — how two values are ordered: as numbers, as instants or as spans.
* `Value.Trichotomous`   — of two values one is less, equal or greater, and the comparisons that
  join two of these say just that.
* `Value.SpelledApart`   — two texts of one instant.
* `Value.trichotomy_iff` — values that have an order are trichotomous unless they are spelled apart.
-/

namespace Compliance

/-! ## Equal places in the orders -/

theorem Decimal.order_eq_iff {m n : Decimal} : m.order n = .eq ↔ (m == n) = true := by
  have hbeq : (m == n) = ((m.crossed n).1 == (m.crossed n).2) := rfl
  rw [hbeq, beq_iff_eq]
  simp only [order]
  split
  · rename_i h
    exact ⟨nofun, fun heq => absurd h (by omega)⟩
  · split <;> rename_i h <;> simp [h]

theorem Decimal.beq_self (m : Decimal) : (m == m) = true := beq_self_eq_true (m.crossed m).1

theorem Instant.beq_iff {t u : Instant} : (t == u) = true ↔ t.nanos = u.nanos := by
  have hbeq : (t == u) = (t.nanos == u.nanos) := rfl
  rw [hbeq, beq_iff_eq]

theorem Instant.beq_comm (t u : Instant) : (t == u) = (u == t) := by
  rw [Bool.eq_iff_iff, beq_iff, beq_iff, eq_comm]

theorem Instant.order_eq_iff {t u : Instant} : t.order u = .eq ↔ t.nanos = u.nanos := by
  rw [order]
  split
  · rename_i h
    exact ⟨nofun, fun heq => absurd h (by omega)⟩
  · split <;> rename_i h <;> simp [h]

namespace Value

variable {v w : Value} {o : Ordering}

/-! ## How values are ordered -/

/-- Two values have the order of the numbers, instants or spans that they stand for. -/
inductive OrderedAs : Value → Value → Ordering → Prop where
  | numbers {v w : Value} {m n : Decimal} (hv : v.number? = some m) (hw : w.number? = some n) :
      OrderedAs v w (m.order n)
  | instants {v w : Value} {t u : Instant} (h : isTemporal v w = true) (hv : v.instant? = some t)
      (hw : w.instant? = some u) : OrderedAs v w (t.order u)
  | spans (s t : Span) : OrderedAs (.span s) (.span t) (Ord.compare s.nanos t.nanos)

theorem orderedAs_of_numberOrder? (h : numberOrder? v w = some o) : OrderedAs v w o := by
  rw [numberOrder?] at h
  split at h
  · rename_i m n hv hw
    cases h
    exact .numbers hv hw
  · cases h

theorem orderedAs_of_instantOrder? (h : instantOrder? v w = some o) : OrderedAs v w o := by
  rw [instantOrder?] at h
  split at h
  · rename_i htemporal
    split at h
    · rename_i t u hv hw
      cases h
      exact .instants htemporal hv hw
    · cases h
  · cases h

theorem orderedAs_of_spanOrder? (h : spanOrder? v w = some o) : OrderedAs v w o := by
  rw [spanOrder?.eq_def] at h
  split at h
  · cases h
    exact .spans _ _
  · cases h

theorem orderedAs_of_order (h : order v w = .ok (some o)) : OrderedAs v w o := by
  rw [order] at h
  split at h
  · cases h
  · split at h
    · rename_i o' ho
      cases h
      rw [Option.or_eq_some_iff, Option.or_eq_some_iff] at ho
      obtain hn | ⟨-, hi | ⟨-, hs⟩⟩ := ho
      · exact orderedAs_of_numberOrder? hn
      · exact orderedAs_of_instantOrder? hi
      · exact orderedAs_of_spanOrder? hs
    · cases h

theorem isTemporal_cases (h : isTemporal v w = true) :
    (∃ t, v = .instant t) ∨ (∃ t, w = .instant t) ∨ ∃ s s', v = .text s ∧ w = .text s' := by
  rw [isTemporal.eq_def] at h
  split at h
  · exact .inl ⟨_, rfl⟩
  · exact .inr (.inl ⟨_, rfl⟩)
  · exact .inr (.inr ⟨_, _, rfl, rfl⟩)
  · cases h

/-! ## Equality along the order -/

/-- Two different texts that stand for one moment. -/
def SpelledApart (v w : Value) : Prop :=
  ∃ (s s' : String) (t t' : Instant), v = .text s ∧ w = .text s' ∧ s ≠ s' ∧
    v.instant? = some t ∧ w.instant? = some t' ∧ t.nanos = t'.nanos

theorem looseEq_of_numbers {m n : Decimal} (hv : v.number? = some m) (hw : w.number? = some n) :
    looseEq v w = (m == n) := by
  cases v with
  | number d =>
    cases w with
    | number e =>
      cases hv
      cases hw
      rfl
    | text s =>
      cases hv
      have hnumber : numberOfText? s = some n := hw
      simp only [looseEq, samePlain, looseNumber?, number?, hnumber]
    | _ => cases hw
  | text s =>
    have hnumber : numberOfText? s = some m := hv
    cases w with
    | number e =>
      cases hw
      simp only [looseEq, samePlain, looseNumber?, number?, hnumber]
    | text s' =>
      have hnumber' : numberOfText? s' = some n := hw
      simp only [looseEq, samePlain, sameText, hnumber, hnumber']
      by_cases h : s = s'
      · rw [h, hnumber'] at hnumber
        cases hnumber
        rw [m.beq_self, Bool.or_true]
      · rw [beq_false_of_ne h, Bool.false_or]
    | _ => cases hw
  | _ => cases hv

theorem looseEq_of_instant_left {t u : Instant} (hw : w.instant? = some u) :
    looseEq (.instant t) w = (t == u) := by
  have hsame : sameAsInstant t w = (t == u) := by
    rw [sameAsInstant, hw]
    exact u.beq_comm t
  cases w with
  | null => cases hw
  | _ => exact hsame

theorem looseEq_of_instant_right {t u : Instant} (hv : v.instant? = some t) :
    looseEq v (.instant u) = (t == u) := by
  have hsame : sameAsInstant u v = (t == u) := by rw [sameAsInstant, hv]
  cases v with
  | null => cases hv
  | instant x =>
    cases hv
    exact looseEq_of_instant_left rfl
  | _ => exact hsame

/-- Texts that stand for no numbers are equal just in case they are the same text. -/
theorem looseEq_of_texts {s s' : String} (h : (text s).number? = none) :
    looseEq (.text s) (.text s') = (s == s') := by
  rw [number?] at h
  simp only [looseEq, samePlain, sameText, h, Bool.or_false]

/-- Texts that stand for instants have the order of these. -/
theorem order_of_texts {s s' : String} {t t' : Instant} (ht : (text s).instant? = some t)
    (ht' : (text s').instant? = some t') :
    order (.text s) (.text s') = .ok (some (t.order t')) := by
  have hnumber : numberOrder? (.text s) (.text s') = none := by
    rw [numberOrder?, number?_of_instant?_text ht]
  have hinstant : instantOrder? (.text s) (.text s') = some (t.order t') := by
    rw [instantOrder?, ht, ht']
    rfl
  rw [order, hnumber, hinstant]
  rfl

theorem SpelledApart.order_eq (h : SpelledApart v w) : order v w = .ok (some .eq) := by
  obtain ⟨s, s', t, t', rfl, rfl, -, ht, ht', hnanos⟩ := h
  rw [order_of_texts ht ht', Instant.order_eq_iff.2 hnanos]

theorem SpelledApart.looseEq_eq_false (h : SpelledApart v w) : looseEq v w = false := by
  obtain ⟨s, s', t, t', rfl, rfl, hne, ht, -⟩ := h
  rw [looseEq_of_texts (number?_of_instant?_text ht)]
  exact beq_false_of_ne hne

/-- Equality and order agree on two values just in case these are not spelled apart. -/
theorem looseEq_iff_of_orderedAs (h : OrderedAs v w o) :
    (looseEq v w = true ↔ o = .eq) ↔ ¬ SpelledApart v w := by
  cases h with
  | @numbers _ _ m n hv hw =>
    rw [looseEq_of_numbers hv hw, Decimal.order_eq_iff]
    refine iff_of_true Iff.rfl ?_
    rintro ⟨s, s', t, t', rfl, -, -, ht, -⟩
    rw [number?_of_instant?_text ht] at hv
    cases hv
  | @instants _ _ t u htemporal hv hw =>
    rw [Instant.order_eq_iff]
    -- either one value is an instant, or both are texts
    rcases isTemporal_cases htemporal with ⟨x, rfl⟩ | ⟨x, rfl⟩ | ⟨s, s', rfl, rfl⟩
    · cases hv
      rw [looseEq_of_instant_left hw, Instant.beq_iff]
      refine iff_of_true Iff.rfl ?_
      rintro ⟨_, _, _, _, ⟨⟩, -⟩
    · cases hw
      rw [looseEq_of_instant_right hv, Instant.beq_iff]
      refine iff_of_true Iff.rfl ?_
      rintro ⟨_, _, _, _, -, ⟨⟩, -⟩
    · rw [looseEq_of_texts (number?_of_instant?_text hv), beq_iff_eq]
      have hmoment : s = s' → t.nanos = u.nanos := by
        rintro rfl
        cases hv.symm.trans hw
        rfl
      constructor
      · rintro hiff ⟨_, _, _, _, ⟨⟩, ⟨⟩, hne, ht, ht', hnanos⟩
        cases ht.symm.trans hv
        cases ht'.symm.trans hw
        exact hne (hiff.2 hnanos)
      · intro hspelled
        refine ⟨hmoment, fun hnanos => ?_⟩
        by_contra hne
        exact hspelled ⟨s, s', t, u, rfl, rfl, hne, hv, hw, hnanos⟩
  | spans s t =>
    have heq : looseEq (.span s) (.span t) = (s == t) := rfl
    rw [heq, beq_iff_eq, Int.compare_eq_eq, Span.mk.injEq]
    refine iff_of_true Iff.rfl ?_
    rintro ⟨_, _, _, _, ⟨⟩, -⟩

/-! ## Comparisons -/

/-- The comparison can be made, and it is satisfied. -/
def Holds (v : Value) (op : Comparison) (w : Value) : Prop := v.compare op w = .ok true

/-- One of less, equal and greater holds, and no two of them. The two comparisons that join equality
with one of the others hold just when one of their parts does, and unequal values do not satisfy
both of them. -/
structure Trichotomous (v w : Value) : Prop where
  one : Holds v .less w ∨ Holds v .equal w ∨ Holds v .greater w
  less_or_equal : ¬ (Holds v .less w ∧ Holds v .equal w)
  less_or_greater : ¬ (Holds v .less w ∧ Holds v .greater w)
  equal_or_greater : ¬ (Holds v .equal w ∧ Holds v .greater w)
  greaterEqual : Holds v .greaterEqual w ↔ Holds v .greater w ∨ Holds v .equal w
  lessEqual : Holds v .lessEqual w ↔ Holds v .less w ∨ Holds v .equal w
  notEqual : ¬ (Holds v .notEqual w ∧ Holds v .greaterEqual w ∧ Holds v .lessEqual w)

theorem holds_equal : Holds v .equal w ↔ looseEq v w = true := by simp [Holds, compare]

theorem holds_notEqual : Holds v .notEqual w ↔ looseEq v w = false := by simp [Holds, compare]

theorem ordered_of_order (h : order v w = .ok (some o)) (test : Ordering → Bool) :
    ordered v w test = .ok true ↔ test o = true := by
  simp [ordered, h, Except.map]

theorem trichotomous_iff (h : order v w = .ok (some o)) :
    Trichotomous v w ↔ (looseEq v w = true ↔ o = .eq) := by
  have hless : Holds v .less w ↔ (o == .lt) = true := ordered_of_order h _
  have hgreater : Holds v .greater w ↔ (o == .gt) = true := ordered_of_order h _
  have hlessEqual : Holds v .lessEqual w ↔ (o != .gt) = true := ordered_of_order h _
  have hgreaterEqual : Holds v .greaterEqual w ↔ (o != .lt) = true := ordered_of_order h _
  constructor
  · rintro ⟨hone, hle, -, hge, -, -, -⟩
    rw [hless, holds_equal, hgreater] at hone
    rw [hless, holds_equal] at hle
    rw [hgreater, holds_equal] at hge
    cases o <;> simp_all
  · intro heq
    constructor <;>
      simp only [hless, hgreater, hlessEqual, hgreaterEqual, holds_equal, holds_notEqual,
        ← Bool.not_eq_true, heq] <;>
      cases o <;> decide

/-- On values that have an order, equality agrees with it and the comparisons are trichotomous
unless the values are two different texts of one moment. These are ordered as equal and are not
equal. -/
theorem trichotomy_iff (h : order v w = .ok (some o)) :
    ((looseEq v w = true ↔ o = .eq) ↔ ¬ SpelledApart v w) ∧
    (Trichotomous v w ↔ ¬ SpelledApart v w) ∧
    (SpelledApart v w → o = .eq ∧ looseEq v w = false) := by
  have hiff := looseEq_iff_of_orderedAs (orderedAs_of_order h)
  refine ⟨hiff, (trichotomous_iff h).trans hiff, fun hspelled => ⟨?_, hspelled.looseEq_eq_false⟩⟩
  have hequal := h.symm.trans hspelled.order_eq
  injection hequal with hequal
  exact Option.some.inj hequal

/-- A date and its midnight are one moment in two texts. -/
theorem trichotomy_iff_midnight :
    order (.text "2024-01-01") (.text "2024-01-01T00:00:00Z") = .ok (some .eq) ∧
      SpelledApart (.text "2024-01-01") (.text "2024-01-01T00:00:00Z") ∧
      looseEq (.text "2024-01-01") (.text "2024-01-01T00:00:00Z") = false ∧
      ¬ Trichotomous (.text "2024-01-01") (.text "2024-01-01T00:00:00Z") := by
  have hdate : (text "2024-01-01").instant?.map Instant.nanos = some 1704067200000000000 := by
    decide +kernel
  have hfull : (text "2024-01-01T00:00:00Z").instant?.map Instant.nanos =
      some 1704067200000000000 := by decide +kernel
  obtain ⟨t, ht, hnanos⟩ := Option.map_eq_some_iff.1 hdate
  obtain ⟨t', ht', hnanos'⟩ := Option.map_eq_some_iff.1 hfull
  have hspelled : SpelledApart (.text "2024-01-01") (.text "2024-01-01T00:00:00Z") :=
    ⟨_, _, t, t', rfl, rfl, by decide, ht, ht', hnanos.trans hnanos'.symm⟩
  obtain ⟨-, htrichotomous, hunequal⟩ := trichotomy_iff hspelled.order_eq
  exact ⟨hspelled.order_eq, hspelled, (hunequal hspelled).2,
    fun h => htrichotomous.1 h hspelled⟩

end Value

end Compliance
