import Compliance.Proofs.Json.Text
import Compliance.Proofs.Rule.Tree

/-!
# Compliance.Proofs.Rule.Document

Rules are read back from the text of their documents.

* `Json.IsInherited`        — what holds of a document if it holds of its parts.
* `Json.IsInherited.rule`   — such properties hold of the documents of rules.
* `Operand.IsRegular`       — four digits of the year, whole minutes of the offset.
* `Rule.readsBack_document` — rules of regular operands have a document if their offsets are below a
  day, and are read back from its text if that does not nest too deep.
-/

namespace Compliance

/-! ## What documents inherit -/

/-- The property holds of texts, truth values and integers of sixty-four bits, and lists and records
have it from their parts. -/
structure Json.IsInherited (P : Json → Prop) : Prop where
  text (s : String) : P (.text s)
  bool (b : Bool) : P (.bool b)
  int {z : Int} (hfit : Text.fitsInt64 z = true) : P (.ofInt z)
  list {items : List Json} (h : ∀ j ∈ items, P j) : P (.list items)
  record {fields : List (String × Json)} (h : ∀ p ∈ fields, P p.2) : P (.ofFields fields)

theorem Json.isInherited_isWhole : IsInherited IsWhole where
  text := .text
  bool := .bool
  int hfit := by
    simp only [Text.fitsInt64, Bool.and_eq_true, decide_eq_true_eq] at hfit
    exact .int (by omega) (by omega)
  list := .list
  record := .ofFields

/-- Each key stands once, and all of them in their order. -/
theorem Json.isInherited_isOrdered : IsInherited fun j => j.IsKeyed ∧ j.sorted = j where
  text s := ⟨.text s, rfl⟩
  bool b := ⟨.bool b, rfl⟩
  int _ := ⟨.number _, rfl⟩
  list h := ⟨.list fun j hj => (h j hj).1, sorted_list fun j hj => (h j hj).2⟩
  record h := ⟨isKeyed_ofFields fun p hp => (h p hp).1, sorted_ofFields fun p hp => (h p hp).2⟩

namespace Json.IsInherited

variable {P : Json → Prop} {j : Json}

theorem tagged (hP : IsInherited P) {tag kind : String} {fields : List (String × Json)}
    (h : ∀ p ∈ fields, P p.2) : P (.tagged tag kind fields) :=
  hP.record (List.forall_mem_cons.2 ⟨hP.text kind, h⟩)

theorem operand (hP : IsInherited P) {v : Operand} (hfit : v.HoldsInt64)
    (h : v.document = .ok j) : P j := by
  cases v with
  | instant t =>
    obtain ⟨s, -, rfl⟩ := Except.map_eq_ok h
    exact hP.tagged (by simp [hP.text])
  | span amount unit =>
    cases h
    exact hP.tagged (by simp [hP.text, hP.int hfit])
  | bool b =>
    cases h
    exact hP.tagged (by simp [hP.bool])
  | _ =>
    cases h
    exact hP.tagged (by simp [hP.text])

theorem operands (hP : IsInherited P) {values : List Operand} (hfit : ∀ v ∈ values, v.HoldsInt64)
    {js : List Json} (h : values.mapM Operand.document = .ok js) : ∀ j ∈ js, P j := by
  induction values generalizing js with
  | nil =>
    cases h
    exact List.forall_mem_nil _
  | cons v rest ih =>
    obtain ⟨hv, hrest⟩ := List.forall_mem_cons.1 hfit
    rw [List.mapM_cons] at h
    obtain ⟨j, hj, h⟩ := Except.bind_eq_ok h
    obtain ⟨js, hjs, h⟩ := Except.bind_eq_ok h
    cases h
    exact List.forall_mem_cons.2 ⟨hP.operand hv hj, ih hrest hjs⟩

theorem operandList (hP : IsInherited P) {values : List Operand}
    (hfit : ∀ v ∈ values, v.HoldsInt64) (h : Operand.listDocument values = .ok j) : P j := by
  obtain ⟨js, hjs, rfl⟩ := Except.map_eq_ok h
  exact hP.list (hP.operands hfit hjs)

theorem condition (hP : IsInherited P) {c : Condition} (hfit : ∀ v ∈ c.leaves, v.HoldsInt64)
    (h : c.document = .ok j) : P j := by
  induction c generalizing j with
  | comparison left op right =>
    obtain ⟨l, hl, h⟩ := Except.bind_eq_ok h
    obtain ⟨r, hr, h⟩ := Except.bind_eq_ok h
    cases h
    have hleft := hP.operand (hfit left (by simp [Condition.leaves])) hl
    have hright := hP.operand (hfit right (by simp [Condition.leaves])) hr
    exact hP.tagged (by simp [hP.text, hleft, hright])
  | membership value values =>
    obtain ⟨l, hl, h⟩ := Except.bind_eq_ok h
    obtain ⟨r, hr, h⟩ := Except.bind_eq_ok h
    cases h
    obtain ⟨hv, hvs⟩ := List.forall_mem_cons.1 hfit
    have hvalue := hP.operand hv hl
    have hvalues := hP.operandList hvs hr
    exact hP.tagged (by simp [hvalue, hvalues])
  | textTest value op pattern =>
    obtain ⟨l, hl, h⟩ := Except.bind_eq_ok h
    obtain ⟨r, hr, h⟩ := Except.bind_eq_ok h
    cases h
    have hvalue := hP.operand (hfit value (by simp [Condition.leaves])) hl
    have hpattern := hP.operand (hfit pattern (by simp [Condition.leaves])) hr
    exact hP.tagged (by simp [hP.text, hvalue, hpattern])
  | timeTest value op reference =>
    obtain ⟨l, hl, h⟩ := Except.bind_eq_ok h
    obtain ⟨r, hr, h⟩ := Except.bind_eq_ok h
    cases h
    have hvalue := hP.operand (hfit value (by simp [Condition.leaves])) hl
    have hreference := hP.operand (hfit reference (by simp [Condition.leaves])) hr
    exact hP.tagged (by simp [hP.text, hvalue, hreference])
  | logical left op right ihl ihr =>
    obtain ⟨l, hl, h⟩ := Except.bind_eq_ok h
    obtain ⟨r, hr, h⟩ := Except.bind_eq_ok h
    cases h
    obtain ⟨hfitl, hfitr⟩ := List.forall_mem_append.1 hfit
    have hleft := ihl hfitl hl
    have hright := ihr hfitr hr
    exact hP.tagged (by simp [hP.text, hleft, hright])
  | negation inner ih =>
    obtain ⟨i, hi, h⟩ := Except.bind_eq_ok h
    cases h
    have hinner := ih hfit hi
    exact hP.tagged (by simp [hinner])
  | truthiness value =>
    obtain ⟨l, hl, h⟩ := Except.bind_eq_ok h
    cases h
    have hvalue := hP.operand (hfit value (by simp [Condition.leaves])) hl
    exact hP.tagged (by simp [hvalue])

theorem expression (hP : IsInherited P) {op : String} {fields : List (String × Json)}
    (h : ∀ p ∈ fields, P p.2) : P (Consequence.expression op fields) := by
  have hinner : P (Json.tagged "op" op fields) := hP.tagged h
  exact hP.tagged (by simp [hinner])

theorem consequence (hP : IsInherited P) {c : Consequence}
    (hfit : ∀ v ∈ c.leaves, v.HoldsInt64) (h : c.document = .ok j) : P j := by
  induction c generalizing j with
  | comparison left op right =>
    obtain ⟨l, hl, h⟩ := Except.bind_eq_ok h
    obtain ⟨r, hr, h⟩ := Except.bind_eq_ok h
    cases h
    have hleft := hP.operand (hfit left (by simp [Consequence.leaves])) hl
    have hright := hP.operand (hfit right (by simp [Consequence.leaves])) hr
    exact hP.tagged (by simp [hP.text, hleft, hright])
  | membership value isNegated values =>
    obtain ⟨hv, hvs⟩ := List.forall_mem_cons.1 hfit
    cases isNegated <;>
    · obtain ⟨l, hl, h⟩ := Except.bind_eq_ok h
      obtain ⟨r, hr, h⟩ := Except.bind_eq_ok h
      cases h
      have hvalue := hP.operand hv hl
      have hvalues := hP.operandList hvs hr
      exact hP.tagged (by simp [hvalue, hvalues])
  | range value lower upper =>
    obtain ⟨v, hv, h⟩ := Except.bind_eq_ok h
    obtain ⟨l, hl, h⟩ := Except.bind_eq_ok h
    obtain ⟨u, hu, h⟩ := Except.bind_eq_ok h
    cases h
    have hvalue := hP.operand (hfit value (by simp [Consequence.leaves])) hv
    have hlower := hP.operand (hfit lower (by simp [Consequence.leaves])) hl
    have hupper := hP.operand (hfit upper (by simp [Consequence.leaves])) hu
    exact hP.tagged (by simp [hvalue, hlower, hupper])
  | presence value demand =>
    obtain ⟨l, hl, h⟩ := Except.bind_eq_ok h
    cases h
    have hvalue := hP.operand (hfit value (by simp [Consequence.leaves])) hl
    exact hP.tagged (by simp [hP.text, hvalue])
  | logical left op right ihl ihr =>
    obtain ⟨l, hl, h⟩ := Except.bind_eq_ok h
    obtain ⟨r, hr, h⟩ := Except.bind_eq_ok h
    cases h
    obtain ⟨hfitl, hfitr⟩ := List.forall_mem_append.1 hfit
    have hleft := ihl hfitl hl
    have hright := ihr hfitr hr
    exact hP.expression (by simp [hleft, hright])
  | negation inner ih =>
    obtain ⟨i, hi, h⟩ := Except.bind_eq_ok h
    cases h
    have hinner := ih hfit hi
    exact hP.expression (by simp [hinner])
  | literal b =>
    cases h
    exact hP.tagged (by simp [hP.bool])
  | truthiness value =>
    obtain ⟨l, hl, h⟩ := Except.bind_eq_ok h
    cases h
    have hvalue := hP.operand (hfit value (by simp [Consequence.leaves])) hl
    exact hP.tagged (by simp [hvalue])

theorem action (hP : IsInherited P) {a : Action} (hfit : a.target.HoldsInt64)
    (h : a.document = .ok j) : P j := by
  obtain ⟨t, ht, h⟩ := Except.bind_eq_ok h
  cases h
  have htarget := hP.operand hfit ht
  exact hP.record (by simp [hP.text, htarget])

/-- What documents inherit from their parts holds of the document of a rule. -/
theorem rule (hP : IsInherited P) {r : Rule} (hfit : ∀ v ∈ r.leaves, v.HoldsInt64)
    (h : r.document = .ok j) : P j := by
  obtain ⟨c, field, hc, hfield, rfl⟩ := Rule.exists_of_document h
  obtain ⟨condition, body⟩ := r
  obtain ⟨hfitc, hfitb⟩ := List.forall_mem_append.1 hfit
  have hcondition := hP.condition hfitc hc
  cases body with
  | consequence k =>
    obtain ⟨k', hk, rfl⟩ := Except.map_eq_ok hfield
    have hbody := hP.consequence hfitb hk
    exact hP.record (by simp [hcondition, hbody])
  | action a =>
    obtain ⟨a', ha, rfl⟩ := Except.map_eq_ok hfield
    have hbody := hP.action (hfitb _ (List.mem_singleton_self _)) ha
    exact hP.record (by simp [hcondition, hbody])

end Json.IsInherited

/-! ## Rules of regular operands -/

/-- An instant has a year of four digits and an offset of whole minutes; the amount of a span has
sixty-four bits. -/
def Operand.IsRegular : Operand → Prop
  | .instant t => 0 ≤ t.date.year ∧ t.date.year ≤ 9999 ∧ t.offset % 60 = 0
  | .span amount _ => Text.fitsInt64 amount = true
  | _ => True

/-- The offset of an instant is below a day. -/
def Operand.IsBelowDay : Operand → Prop
  | .instant t => t.offset.natAbs < 86400
  | _ => True

instance (v : Operand) : Decidable v.IsRegular :=
  match v with
  | .instant t => inferInstanceAs
      (Decidable (0 ≤ t.date.year ∧ t.date.year ≤ 9999 ∧ t.offset % 60 = 0))
  | .span amount _ => inferInstanceAs (Decidable (Text.fitsInt64 amount = true))
  | .variable _ | .text _ | .number _ | .bool _ | .null | .call _ => .isTrue trivial

instance (v : Operand) : Decidable v.IsBelowDay :=
  match v with
  | .instant t => inferInstanceAs (Decidable (t.offset.natAbs < 86400))
  | .variable _ | .text _ | .number _ | .bool _ | .span _ _ | .null | .call _ => .isTrue trivial

theorem Operand.IsRegular.holdsInt64 {v : Operand} (h : v.IsRegular) : v.HoldsInt64 := by
  cases v with
  | span => exact h
  | _ => trivial

theorem Operand.IsRegular.unwritable?_cases {v : Operand} (h : v.IsRegular) :
    v.IsBelowDay ∧ v.unwritable? = none ∨ ¬ v.IsBelowDay ∧ v.unwritable? = some .offsetHour := by
  cases v with
  | instant t =>
    obtain ⟨hlow, hhigh, hoffset⟩ := h
    have heq := Instant.unwritable?_of_wholeMinutes hlow hhigh hoffset
    by_cases hday : t.offset.natAbs < 86400
    · exact .inl ⟨hday, heq.trans (if_pos hday)⟩
    · exact .inr ⟨hday, heq.trans (if_neg hday)⟩
  | _ => exact .inl ⟨trivial, rfl⟩

/-- The text of a document is read as the document, with the fields of its records in whatever order
they were written, unless it nests too deep. -/
theorem Rule.ofText?_compact_of_document {r : Rule} (hfit : ∀ v ∈ r.leaves, v.HoldsInt64)
    {j d : Json} (h : r.document = .ok j) (hkeyed : d.IsKeyed) (hd : d.sorted = j) :
    (j.depth ≤ Json.maxDepth → Json.ofText? d.compact = .ok j) ∧
      (Json.maxDepth < j.depth →
        ∃ e, Json.ofText? d.compact = .error e ∧ e.fault = .tooDeep) := by
  have hwhole := Json.isInherited_isWhole.rule hfit h
  rw [← hd] at hwhole
  have htext := Json.ofText?_compact (Json.IsWhole.of_sorted hkeyed hwhole)
  rwa [← Json.depth_sorted hkeyed, hd] at htext

/-- A rule of regular operands has a document just in case their offsets are below a day. From the
document the same rule is read, and it has one of the two bodies. So is the rule from the text of
the document, with the fields of its records in any order, unless that nests too deep. -/
theorem Rule.readsBack_document (r : Rule) (h : ∀ v ∈ r.leaves, v.IsRegular) :
    ((∃ j, r.document = .ok j) ↔ ∀ v ∈ r.leaves, v.IsBelowDay) ∧
    (∀ part, r.document = .error part → part = .offsetHour) ∧
    ∀ j, r.document = .ok j →
      Rule.ofJson? j = some r ∧
      (j.field? "consequence").isSome = !(j.field? "action").isSome ∧
      (j.IsKeyed ∧ j.sorted = j) ∧
      ∀ d : Json, d.IsKeyed → d.sorted = j →
        (j.depth ≤ Json.maxDepth → Json.ofText? d.compact = .ok j) ∧
        (Json.maxDepth < j.depth →
          ∃ e, Json.ofText? d.compact = .error e ∧ e.fault = .tooDeep) := by
  have hfit : ∀ v ∈ r.leaves, v.HoldsInt64 := fun v hv => (h v hv).holdsInt64
  refine ⟨?_, fun part hpart => ?_, fun j hj => ?_⟩
  · rw [r.failsFirst_document.exists_eq_ok_iff]
    refine forall₂_congr fun v hv => ?_
    rcases (h v hv).unwritable?_cases with ⟨hday, hnone⟩ | ⟨hday, hsome⟩
    · exact iff_of_true hnone hday
    · exact iff_of_false (by simp [hsome]) hday
  · have hfirst := (r.failsFirst_document part).1 hpart
    obtain ⟨v, hv, hfault⟩ := List.exists_of_findSome?_eq_some hfirst
    rcases (h v hv).unwritable?_cases with ⟨-, hnone⟩ | ⟨-, hsome⟩
    · rw [hnone] at hfault
      cases hfault
    · rw [hsome] at hfault
      cases hfault
      rfl
  · obtain ⟨hread, hbodies⟩ := Rule.ofJson?_of_document hfit hj
    exact ⟨hread, hbodies, Json.isInherited_isOrdered.rule hfit hj,
      fun d hkeyed hd => ofText?_compact_of_document hfit hj hkeyed hd⟩

/-- A decimal of two places, an instant with an offset, a span, and connectives on both sides. -/
theorem Rule.readsBack_document_nested :
    let t : Instant := ⟨1717236000000000000, 7200, by decide⟩
    let r : Rule :=
      ⟨.logical
        (.logical (.comparison (.variable "a") .equal (.number ⟨150, 2, by decide, by decide⟩)) .and
          (.negation (.timeTest (.variable "at") .before (.instant t))))
        .or (.membership (.text "x") [.null, .bool true, .span (-5) .days, .call "NOW"]),
      .consequence (.negation (.logical (.presence (.variable "b") .recommended) .and
        (.range (.variable "c") (.number Decimal.zero) (.number Decimal.one))))⟩
    ∃ j, r.document = .ok j ∧ j.depth = 7 ∧ Rule.ofJson? j = some r ∧
      Json.ofText? j.compact = .ok j := by
  intro t r
  have hregular : ∀ v ∈ r.leaves, v.IsRegular := by decide +kernel
  have hbelow : ∀ v ∈ r.leaves, v.IsBelowDay := by decide +kernel
  have hdepth : r.document.toOption.map Json.depth = some 7 := by decide +kernel
  obtain ⟨hexists, -, hdocument⟩ := Rule.readsBack_document r hregular
  obtain ⟨j, hj⟩ := hexists.2 hbelow
  obtain ⟨hread, -, ⟨hkeyed, hsorted⟩, htext⟩ := hdocument j hj
  rw [hj] at hdepth
  have hseven : j.depth = 7 := Option.some.inj hdepth
  exact ⟨j, hj, hseven, hread, (htext j hkeyed hsorted).1 (by rw [hseven]; decide)⟩

/-- A rule with an instant a day ahead of UTC has no document. One with a condition that is negated
a hundred and twenty-seven times has, but its text is refused. -/
theorem Rule.not_readsBack_dayAhead :
    let t : Instant := ⟨1717156800000000000, 86400, by decide⟩
    let ahead : Rule :=
      ⟨.timeTest (.variable "a") .before (.instant t), .consequence (.literal true)⟩
    let deep : Rule :=
      ⟨Nat.repeat .negation 127 (.truthiness (.variable "a")), .consequence (.literal true)⟩
    (t.date.year = 2024 ∧ t.offset % 60 = 0 ∧ ahead.document = .error .offsetHour) ∧
      ∃ j, deep.document = .ok j ∧
        ∃ e, Json.ofText? j.compact = .error e ∧ e.fault = .tooDeep := by
  intro t ahead deep
  refine ⟨⟨by decide, by decide, rfl⟩, ?_⟩
  have hregular : ∀ v ∈ deep.leaves, v.IsRegular := by decide +kernel
  have hfit : ∀ v ∈ deep.leaves, v.HoldsInt64 := fun v hv => (hregular v hv).holdsInt64
  have hdepth : deep.document.toOption.map Json.depth = some 130 := by decide +kernel
  cases hj : deep.document with
  | error part =>
    rw [hj] at hdepth
    cases hdepth
  | ok j =>
    rw [hj] at hdepth
    have hlevels : j.depth = 130 := Option.some.inj hdepth
    obtain ⟨hkeyed, hsorted⟩ := Json.isInherited_isOrdered.rule hfit hj
    exact ⟨j, rfl, (ofText?_compact_of_document hfit hj hkeyed hsorted).2 (by rw [hlevels]; decide)⟩

end Compliance
