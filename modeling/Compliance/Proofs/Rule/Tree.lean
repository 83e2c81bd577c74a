import Compliance.Proofs.Decimal.Text
import Compliance.Proofs.Except
import Compliance.Proofs.Instant.Rfc3339
import Compliance.Proofs.Keyed
import Compliance.Proofs.Rule.Canonical
import Compliance.Rule.Tree

/-!
# Compliance.Proofs.Rule.Tree

Rules are read back from their documents.

* `Json.depth_lt_of_field?`  — a field nests less deep than its record.
* `Rule.leaves`              — the operands in a rule.
* `Rule.failsFirst_document` — there is a document unless an operand has no form in it; the first of
  those is to blame.
* `Condition.ofJsonWithin?_of_document`, `Consequence.ofJsonWithin?_of_document` — trees are read
  back, at any depth that the document does not exceed.
* `Rule.ofJson?_of_document` — rules are read back, decimals with their scale and instants with
  their offset.
-/

namespace Compliance

/-! ## Fields of records -/

@[simp] theorem Json.field?_tagged (key tag kind : String) (fields : List (String × Json)) :
    (Json.tagged tag kind fields).field? key =
      (((tag, .text kind) :: fields).reverse.find? (·.1 == key)).map (·.2) :=
  Json.field?_ofFields key _

theorem Json.depth_le_fieldsDepth {key : String} {j : Json} {fields : List (String × Json)}
    (h : Keyed.find? key fields = some j) : j.depth ≤ Json.fieldsDepth fields := by
  induction fields with
  | nil => cases h
  | cons field rest ih =>
    obtain ⟨k, v⟩ := field
    rw [Json.fieldsDepth]
    rw [Keyed.find?] at h
    split at h
    · cases h
      exact Nat.le_max_left _ _
    · exact Nat.le_trans (ih h) (Nat.le_max_right _ _)

theorem Json.depth_lt_of_field? {key : String} {j child : Json} (h : j.field? key = some child) :
    child.depth < j.depth := by
  cases j with
  | record fields => exact Nat.lt_succ_of_le (Json.depth_le_fieldsDepth h)
  | _ => cases h

/-- A field of a record that nests at most `depth + 1` deep nests at most `depth` deep. -/
theorem Json.depth_le_of_field? {depth : Nat} {j child : Json} (h : j.depth ≤ depth + 1)
    (key : String) (hfield : j.field? key = some child) : child.depth ≤ depth :=
  Nat.le_of_lt_succ (Nat.lt_of_lt_of_le (Json.depth_lt_of_field? hfield) h)

theorem Json.depth_tagged_pos (tag kind : String) (fields : List (String × Json)) :
    0 < (Json.tagged tag kind fields).depth := Nat.succ_pos _

/-! ## Names -/

@[simp] theorem SpanUnit.ofName?_keyword (unit : SpanUnit) :
    SpanUnit.ofName? unit.keyword = some unit := by
  cases unit <;> rfl

@[simp] theorem Comparison.ofName?_keyword (op : Comparison) :
    Comparison.ofName? op.keyword = some op := by
  cases op <;> rfl

@[simp] theorem TextTest.ofName?_keyword (op : TextTest) :
    TextTest.ofName? op.keyword = some op := by
  cases op <;> rfl

@[simp] theorem TimeTest.ofName?_keyword (op : TimeTest) :
    TimeTest.ofName? op.keyword = some op := by
  cases op <;> rfl

@[simp] theorem Connective.ofName?_keyword (op : Connective) :
    Connective.ofName? op.keyword = some op := by
  cases op <;> rfl

@[simp] theorem Demand.ofName?_keyword (demand : Demand) :
    Demand.ofName? demand.keyword = some demand := by
  cases demand <;> rfl

/-! ## Operands without a form -/

/-- The part of an operand that has no form in a document. -/
def Operand.unwritable? : Operand → Option Instant.Component
  | .instant t => t.unwritable?
  | _ => none

/-- The operands in a condition, from left to right. -/
def Condition.leaves : Condition → List Operand
  | .comparison left _ right => [left, right]
  | .membership value values => value :: values
  | .textTest value _ pattern => [value, pattern]
  | .timeTest value _ reference => [value, reference]
  | .logical left _ right => left.leaves ++ right.leaves
  | .negation inner => inner.leaves
  | .truthiness value => [value]

def Consequence.leaves : Consequence → List Operand
  | .comparison left _ right => [left, right]
  | .membership value _ values => value :: values
  | .range value lower upper => [value, lower, upper]
  | .presence value _ => [value]
  | .logical left _ right => left.leaves ++ right.leaves
  | .negation inner => inner.leaves
  | .literal _ => []
  | .truthiness value => [value]

def Rule.Body.leaves : Rule.Body → List Operand
  | .consequence c => c.leaves
  | .action a => [a.target]

def Rule.leaves (r : Rule) : List Operand := r.condition.leaves ++ r.body.leaves

theorem Operand.failsFirst_document (v : Operand) : FailsFirst unwritable? [v] v.document := by
  cases v with
  | instant t =>
    intro part
    cases h : t.unwritable? with
    | none => simp [document, Operand.unwritable?, Instant.written, h, Except.map]
    | some c => simp [document, Operand.unwritable?, Instant.written, h, Except.map]
  | _ => exact fun part => by simp [document, Operand.unwritable?]

theorem Operand.failsFirst_mapM_document (values : List Operand) :
    FailsFirst unwritable? values (values.mapM Operand.document) := by
  induction values with
  | nil => exact .ok []
  | cons v rest ih =>
    rw [List.mapM_cons]
    exact v.failsFirst_document.bind fun j => ih.last (j :: ·)

theorem Operand.failsFirst_listDocument (values : List Operand) :
    FailsFirst unwritable? values (listDocument values) :=
  (failsFirst_mapM_document values).map Json.list

theorem Condition.failsFirst_document (c : Condition) :
    FailsFirst Operand.unwritable? c.leaves c.document := by
  induction c with
  | comparison left op right =>
    exact left.failsFirst_document.bind fun _ => right.failsFirst_document.last _
  | membership value values =>
    exact value.failsFirst_document.bind fun _ => (Operand.failsFirst_listDocument values).last _
  | textTest value op pattern =>
    exact value.failsFirst_document.bind fun _ => pattern.failsFirst_document.last _
  | timeTest value op reference =>
    exact value.failsFirst_document.bind fun _ => reference.failsFirst_document.last _
  | logical left op right ihl ihr => exact ihl.bind fun _ => ihr.last _
  | negation inner ih => exact ih.last _
  | truthiness value => exact value.failsFirst_document.last _

theorem Consequence.failsFirst_document (c : Consequence) :
    FailsFirst Operand.unwritable? c.leaves c.document := by
  induction c with
  | comparison left op right =>
    exact left.failsFirst_document.bind fun _ => right.failsFirst_document.last _
  | membership value isNegated values =>
    cases isNegated <;>
      exact value.failsFirst_document.bind fun _ => (Operand.failsFirst_listDocument values).last _
  | range value lower upper =>
    exact value.failsFirst_document.bind fun _ => lower.failsFirst_document.bind fun _ =>
      upper.failsFirst_document.last _
  | presence value demand => exact value.failsFirst_document.last _
  | logical left op right ihl ihr => exact ihl.bind fun _ => ihr.last _
  | negation inner ih => exact ih.last _
  | literal b => exact .ok _
  | truthiness value => exact value.failsFirst_document.last _

theorem Rule.Body.failsFirst_field (b : Rule.Body) :
    FailsFirst Operand.unwritable? b.leaves b.field := by
  cases b with
  | consequence c => exact c.failsFirst_document.map _
  | action a => exact (a.target.failsFirst_document.last _).map _

/-- A rule has a document unless an operand has no form in it; the first of those is to blame. -/
theorem Rule.failsFirst_document (r : Rule) : FailsFirst Operand.unwritable? r.leaves r.document :=
  r.condition.failsFirst_document.bind fun _ => r.body.failsFirst_field.last _

/-! ## Operands -/

/-- The amount of a span has sixty-four bits. -/
def Operand.HoldsInt64 : Operand → Prop
  | .span amount _ => Text.fitsInt64 amount = true
  | _ => True

theorem Decimal.ofJson?_text (d : Decimal) : Decimal.ofJson? (.text d.text) = some d := by
  rw [ofJson?, ofText?, ofPlain?_text]
  rfl

theorem Operand.ofJson?_of_document {v : Operand} (hfit : v.HoldsInt64) {j : Json}
    (h : v.document = .ok j) : Operand.ofJson? j = some v := by
  cases v with
  | «variable» path =>
    cases h
    simp [ofJson?, Json.textField?, Json.asText?]
  | text s =>
    cases h
    simp [ofJson?, Json.textField?, Json.asText?]
  | number d =>
    cases h
    simp [ofJson?, Json.textField?, Json.asText?, Decimal.ofJson?_text]
  | bool b =>
    cases h
    simp [ofJson?, Json.textField?, Json.asText?, Json.asBool?]
  | instant t =>
    obtain ⟨s, hs, rfl⟩ := Except.map_eq_ok h
    have hread := Instant.ofRfc3339?_of_written hs
    simp [ofJson?, Json.textField?, Json.asText?, hread]
  | span amount unit =>
    cases h
    have hfits : Text.fitsInt64 amount = true := hfit
    simp [ofJson?, Json.textField?, Json.asText?, Json.ofInt, Json.asInt64?, hfits]
  | null =>
    cases h
    simp [ofJson?, Json.textField?, Json.asText?]
  | call name =>
    cases h
    simp [ofJson?, Json.textField?, Json.asText?]

theorem Operand.mapM_ofJson?_of_document {values : List Operand}
    (hfit : ∀ v ∈ values, v.HoldsInt64) {js : List Json}
    (h : values.mapM Operand.document = .ok js) : js.mapM Operand.ofJson? = some values := by
  induction values generalizing js with
  | nil =>
    cases h
    rfl
  | cons v rest ih =>
    obtain ⟨hv, hrest⟩ := List.forall_mem_cons.1 hfit
    rw [List.mapM_cons] at h
    obtain ⟨j, hj, h⟩ := Except.bind_eq_ok h
    obtain ⟨js, hjs, h⟩ := Except.bind_eq_ok h
    cases h
    simp [ofJson?_of_document hv hj, ih hrest hjs]

theorem Operand.exists_of_listDocument {values : List Operand}
    (hfit : ∀ v ∈ values, v.HoldsInt64) {j : Json} (h : listDocument values = .ok j) :
    ∃ js, j = .list js ∧ js.mapM Operand.ofJson? = some values := by
  obtain ⟨js, hjs, rfl⟩ := Except.map_eq_ok h
  exact ⟨js, rfl, mapM_ofJson?_of_document hfit hjs⟩

theorem Json.exists_eq_of_depth_le {tag kind : String} {fields : List (String × Json)} {depth : Nat}
    (h : (Json.tagged tag kind fields).depth ≤ depth) : ∃ d, depth = d + 1 :=
  ⟨depth - 1, by have := Json.depth_tagged_pos tag kind fields; omega⟩

/-! ## Conditions -/

/-- A condition is read back wherever its document may nest as deep as it does. -/
theorem Condition.ofJsonWithin?_of_document {c : Condition} (hfit : ∀ v ∈ c.leaves, v.HoldsInt64)
    {j : Json} (h : c.document = .ok j) {depth : Nat} (hdepth : j.depth ≤ depth) :
    Condition.ofJsonWithin? depth j = some c := by
  induction c generalizing j depth with
  | comparison left op right =>
    obtain ⟨l, hl, h⟩ := Except.bind_eq_ok h
    obtain ⟨r, hr, h⟩ := Except.bind_eq_ok h
    cases h
    obtain ⟨depth, rfl⟩ := Json.exists_eq_of_depth_le hdepth
    have hleft := Operand.ofJson?_of_document (hfit left (by simp [leaves])) hl
    have hright := Operand.ofJson?_of_document (hfit right (by simp [leaves])) hr
    simp [ofJsonWithin?, Json.textField?, Json.asText?, Operand.ofField?, hleft, hright]
  | membership value values =>
    obtain ⟨l, hl, h⟩ := Except.bind_eq_ok h
    obtain ⟨r, hr, h⟩ := Except.bind_eq_ok h
    cases h
    obtain ⟨depth, rfl⟩ := Json.exists_eq_of_depth_le hdepth
    obtain ⟨hv, hvs⟩ := List.forall_mem_cons.1 hfit
    obtain ⟨js, rfl, hvalues⟩ := Operand.exists_of_listDocument hvs hr
    have hvalue := Operand.ofJson?_of_document hv hl
    simp [ofJsonWithin?, Json.textField?, Json.asText?, Operand.ofField?, Operand.listOfField?,
      hvalue, hvalues]
  | textTest value op pattern =>
    obtain ⟨l, hl, h⟩ := Except.bind_eq_ok h
    obtain ⟨r, hr, h⟩ := Except.bind_eq_ok h
    cases h
    obtain ⟨depth, rfl⟩ := Json.exists_eq_of_depth_le hdepth
    have hvalue := Operand.ofJson?_of_document (hfit value (by simp [leaves])) hl
    have hpattern := Operand.ofJson?_of_document (hfit pattern (by simp [leaves])) hr
    simp [ofJsonWithin?, Json.textField?, Json.asText?, Operand.ofField?, hvalue, hpattern]
  | timeTest value op reference =>
    obtain ⟨l, hl, h⟩ := Except.bind_eq_ok h
    obtain ⟨r, hr, h⟩ := Except.bind_eq_ok h
    cases h
    obtain ⟨depth, rfl⟩ := Json.exists_eq_of_depth_le hdepth
    have hvalue := Operand.ofJson?_of_document (hfit value (by simp [leaves])) hl
    have hreference := Operand.ofJson?_of_document (hfit reference (by simp [leaves])) hr
    simp [ofJsonWithin?, Json.textField?, Json.asText?, Operand.ofField?, hvalue, hreference]
  | logical left op right ihl ihr =>
    obtain ⟨l, hl, h⟩ := Except.bind_eq_ok h
    obtain ⟨r, hr, h⟩ := Except.bind_eq_ok h
    cases h
    obtain ⟨depth, rfl⟩ := Json.exists_eq_of_depth_le hdepth
    obtain ⟨hfitl, hfitr⟩ := List.forall_mem_append.1 hfit
    have hleft := ihl hfitl hl (Json.depth_le_of_field? hdepth "left" (by simp))
    have hright := ihr hfitr hr (Json.depth_le_of_field? hdepth "right" (by simp))
    simp [ofJsonWithin?, Json.textField?, Json.asText?, hleft, hright]
  | negation inner ih =>
    obtain ⟨i, hi, h⟩ := Except.bind_eq_ok h
    cases h
    obtain ⟨depth, rfl⟩ := Json.exists_eq_of_depth_le hdepth
    have hinner := ih hfit hi (Json.depth_le_of_field? hdepth "inner" (by simp))
    simp [ofJsonWithin?, Json.textField?, Json.asText?, hinner]
  | truthiness value =>
    obtain ⟨l, hl, h⟩ := Except.bind_eq_ok h
    cases h
    obtain ⟨depth, rfl⟩ := Json.exists_eq_of_depth_le hdepth
    have hvalue := Operand.ofJson?_of_document (hfit value (by simp [leaves])) hl
    simp [ofJsonWithin?, Json.textField?, Json.asText?, Operand.ofField?, hvalue]

/-! ## Consequences -/

/-- What stands in the expression of a connective nests two levels less deep. -/
theorem Consequence.depth_le_of_expression {depth : Nat} {op : String}
    {fields : List (String × Json)} {child : Json} (h : (expression op fields).depth ≤ depth + 1)
    (key : String) (hfield : (Json.tagged "op" op fields).field? key = some child) :
    child.depth ≤ depth := by
  have hexpression : (Json.tagged "op" op fields).depth ≤ depth :=
    Json.depth_le_of_field? h "expression" (by simp [expression])
  exact Nat.le_of_lt (Nat.lt_of_lt_of_le (Json.depth_lt_of_field? hfield) hexpression)

theorem Connective.keyword_ne_not (op : Connective) : op.keyword ≠ "NOT" := by
  cases op <;> decide

/-- A consequence is read back wherever its document may nest as deep as it does. -/
theorem Consequence.ofJsonWithin?_of_document {c : Consequence}
    (hfit : ∀ v ∈ c.leaves, v.HoldsInt64) {j : Json} (h : c.document = .ok j) {depth : Nat}
    (hdepth : j.depth ≤ depth) : Consequence.ofJsonWithin? depth j = some c := by
  induction c generalizing j depth with
  | comparison left op right =>
    obtain ⟨l, hl, h⟩ := Except.bind_eq_ok h
    obtain ⟨r, hr, h⟩ := Except.bind_eq_ok h
    cases h
    obtain ⟨depth, rfl⟩ := Json.exists_eq_of_depth_le hdepth
    have hleft := Operand.ofJson?_of_document (hfit left (by simp [leaves])) hl
    have hright := Operand.ofJson?_of_document (hfit right (by simp [leaves])) hr
    simp [ofJsonWithin?, Json.textField?, Json.asText?, Operand.ofField?, hleft, hright]
  | membership value isNegated values =>
    obtain ⟨hv, hvs⟩ := List.forall_mem_cons.1 hfit
    cases isNegated with
    | false =>
      obtain ⟨l, hl, h⟩ := Except.bind_eq_ok h
      obtain ⟨r, hr, h⟩ := Except.bind_eq_ok h
      cases h
      obtain ⟨depth, rfl⟩ := Json.exists_eq_of_depth_le hdepth
      obtain ⟨js, rfl, hvalues⟩ := Operand.exists_of_listDocument hvs hr
      simp [ofJsonWithin?, Json.textField?, Json.asText?, Operand.ofField?, Operand.listOfField?,
        Operand.ofJson?_of_document hv hl, hvalues]
    | true =>
      obtain ⟨l, hl, h⟩ := Except.bind_eq_ok h
      obtain ⟨r, hr, h⟩ := Except.bind_eq_ok h
      cases h
      obtain ⟨depth, rfl⟩ := Json.exists_eq_of_depth_le hdepth
      obtain ⟨js, rfl, hvalues⟩ := Operand.exists_of_listDocument hvs hr
      simp [ofJsonWithin?, Json.textField?, Json.asText?, Operand.ofField?, Operand.listOfField?,
        Operand.ofJson?_of_document hv hl, hvalues]
  | range value lower upper =>
    obtain ⟨l, hl, h⟩ := Except.bind_eq_ok h
    obtain ⟨m, hm, h⟩ := Except.bind_eq_ok h
    obtain ⟨r, hr, h⟩ := Except.bind_eq_ok h
    cases h
    obtain ⟨depth, rfl⟩ := Json.exists_eq_of_depth_le hdepth
    have hvalue := Operand.ofJson?_of_document (hfit value (by simp [leaves])) hl
    have hlower := Operand.ofJson?_of_document (hfit lower (by simp [leaves])) hm
    have hupper := Operand.ofJson?_of_document (hfit upper (by simp [leaves])) hr
    simp [ofJsonWithin?, Json.textField?, Json.asText?, Operand.ofField?, hvalue, hlower, hupper]
  | presence value demand =>
    obtain ⟨l, hl, h⟩ := Except.bind_eq_ok h
    cases h
    obtain ⟨depth, rfl⟩ := Json.exists_eq_of_depth_le hdepth
    have hvalue := Operand.ofJson?_of_document (hfit value (by simp [leaves])) hl
    simp [ofJsonWithin?, Json.textField?, Json.asText?, Operand.ofField?, hvalue]
  | logical left op right ihl ihr =>
    obtain ⟨l, hl, h⟩ := Except.bind_eq_ok h
    obtain ⟨r, hr, h⟩ := Except.bind_eq_ok h
    cases h
    obtain ⟨depth, rfl⟩ := Json.exists_eq_of_depth_le hdepth
    obtain ⟨hfitl, hfitr⟩ := List.forall_mem_append.1 hfit
    have hleft := ihl hfitl hl (depth_le_of_expression hdepth "left" (by simp))
    have hright := ihr hfitr hr (depth_le_of_expression hdepth "right" (by simp))
    simp [expression, ofJsonWithin?, Json.textField?, Json.asText?, op.keyword_ne_not, hleft,
      hright]
  | negation inner ih =>
    obtain ⟨i, hi, h⟩ := Except.bind_eq_ok h
    cases h
    obtain ⟨depth, rfl⟩ := Json.exists_eq_of_depth_le hdepth
    have hinner := ih hfit hi (depth_le_of_expression hdepth "inner" (by simp))
    simp [expression, ofJsonWithin?, Json.textField?, Json.asText?, hinner]
  | literal b =>
    cases h
    obtain ⟨depth, rfl⟩ := Json.exists_eq_of_depth_le hdepth
    simp [ofJsonWithin?, Json.textField?, Json.asText?, Json.asBool?]
  | truthiness value =>
    obtain ⟨l, hl, h⟩ := Except.bind_eq_ok h
    cases h
    obtain ⟨depth, rfl⟩ := Json.exists_eq_of_depth_le hdepth
    have hvalue := Operand.ofJson?_of_document (hfit value (by simp [leaves])) hl
    simp [ofJsonWithin?, Json.textField?, Json.asText?, Operand.ofField?, hvalue]

/-! ## Rules -/

theorem Action.ofJson?_of_document {a : Action} (hfit : a.target.HoldsInt64) {j : Json}
    (h : a.document = .ok j) : Action.ofJson? j = some a := by
  obtain ⟨t, ht, h⟩ := Except.bind_eq_ok h
  cases h
  simp [ofJson?, Json.textField?, Json.asText?, Operand.ofField?, Verb.ofKeyword?_keyword,
    Operand.ofJson?_of_document hfit ht]

/-- A document holds the condition of a rule, and its body under the one key or the other. -/
theorem Rule.exists_of_document {r : Rule} {j : Json} (h : r.document = .ok j) :
    ∃ c field, r.condition.document = .ok c ∧ r.body.field = .ok field ∧
      j = .ofFields [("condition", c), field] := by
  obtain ⟨c, hc, h⟩ := Except.bind_eq_ok h
  obtain ⟨field, hfield, h⟩ := Except.bind_eq_ok h
  cases h
  exact ⟨c, field, hc, hfield, rfl⟩

/-- A rule is read back from its document, which has one of the two bodies. -/
theorem Rule.ofJson?_of_document {r : Rule} (hfit : ∀ v ∈ r.leaves, v.HoldsInt64) {j : Json}
    (h : r.document = .ok j) :
    Rule.ofJson? j = some r ∧
      (j.field? "consequence").isSome = !(j.field? "action").isSome := by
  obtain ⟨c, field, hc, hfield, rfl⟩ := exists_of_document h
  obtain ⟨condition, body⟩ := r
  obtain ⟨hfitc, hfitb⟩ := List.forall_mem_append.1 hfit
  have hcondition := Condition.ofJsonWithin?_of_document hfitc hc (Nat.le_refl _)
  cases body with
  | consequence k =>
    obtain ⟨k', hk, rfl⟩ := Except.map_eq_ok hfield
    have hbody := Consequence.ofJsonWithin?_of_document hfitb hk (Nat.le_refl _)
    simp [ofJson?, Body.ofJson?, hcondition, hbody]
  | action a =>
    obtain ⟨a', ha, rfl⟩ := Except.map_eq_ok hfield
    have hbody := Action.ofJson?_of_document (hfitb _ (List.mem_singleton_self _)) ha
    simp [ofJson?, Body.ofJson?, hcondition, hbody]

end Compliance
