import Compliance.Proofs.Evidence.Document
import Compliance.Proofs.Schema

/-!
# Compliance.Proofs.Decision.Conformance

The documents of decisions have the published shape.

* `Published.forms`    — the eleven forms of details.
* `Published.conforms` — is a document a decision or an outcome, as published?
* `Decision.conforms_published` — the documents of decisions and of their outcomes are.
-/

namespace Compliance

namespace Published

open Schema (Form Property)

/-! ## The published schema -/

/-- The schemas that are referred to. -/
inductive Name where
  | result
  | details
  | comparison

@[simp] def flag : Property Name := .inline (.kind .boolean)

@[simp] def text : Property Name := .inline (.kind .text)

@[simp] def texts : Property Name := .inline (.all [.kind .list, .items (.kind .text)])

@[simp] def moment : Property Name := .inline (.all [.kind .text, .dateTime])

@[simp] def anything : Property Name := .inline .anything

@[simp] def oneOf (keywords : List String) : Property Name := .inline (.oneOfTexts keywords)

/-- Records with no other fields than these, some of them required. -/
def record (required : List String) (properties : List (String × Property Name)) : Schema Name :=
  .all [.kind .record, .required required, .closed properties]

def provenance : Schema Name :=
  record ["variables_used", "functions_used"]
    [("variables_used", texts), ("functions_used", texts)]

def decision : Schema Name :=
  record ["evaluated_at", "outcome", "provenance"]
    [("rule_id", text), ("evaluated_at", moment), ("outcome", .named .result),
     ("provenance", .inline provenance)]

def result : Schema Name :=
  record ["result"]
    [("result", flag), ("reason", text), ("error", text), ("details", .named .details)]

def comparison : Schema Name := .oneOfTexts ["=", "!=", ">", ">=", "<", "<=", "LIKE"]

def action : Schema Name :=
  record ["action_type", "target", "label"]
    [("action_type", oneOf ["FLAG", "BLOCK", "NOTIFY", "ESCALATE", "REPORT"]),
     ("target", text), ("label", text)]

/-- A rule has a consequence or an action or neither, but not both. -/
def ruleForm : Form Name :=
  ⟨"rule",
   [("condition", .named .result), ("consequence", .named .result), ("action", .inline action)],
   [.required ["condition"], .not (.required ["consequence", "action"])]⟩

def forms : List (Form Name) :=
  [ruleForm,
   .ofProperties "comparison"
     [("left", anything), ("operator", .named .comparison), ("right", anything)],
   .ofProperties "membership"
     [("value", anything), ("negated", flag), ("values", .inline (.kind .list))],
   .ofProperties "range" [("value", anything), ("lower", anything), ("upper", anything)],
   .ofProperties "pattern"
     [("value", anything), ("operator", oneOf ["CONTAINS", "MATCHES"]), ("pattern", anything)],
   .ofProperties "temporal"
     [("value", anything), ("operator", oneOf ["BEFORE", "AFTER", "WITHIN", "EXPIRES"]),
      ("reference", anything), ("now", moment)],
   .ofProperties "logical"
     [("operator", oneOf ["AND", "OR"]), ("left", .named .result), ("right", .named .result)],
   .ofProperties "negation" [("inner", .named .result)],
   .ofProperties "truthiness" [("operand", text), ("value", anything)],
   .ofProperties "requirement"
     [("variable", text), ("keyword", oneOf ["MUST", "SHOULD"]), ("value", anything)],
   .ofProperties "literal" [("value", flag)]]

def details : Schema Name :=
  .all [.kind .record, .required ["kind"], .exactlyOne (forms.map (Form.schema "kind"))]

@[simp] def named : Name → Schema Name
  | .result => result
  | .details => details
  | .comparison => comparison

/-- Is a document a decision or an outcome, as published? -/
def conforms (j : Json) : Bool := (Schema.exactlyOne [decision, result]).allows named j

/-! ## Records -/

theorem record_allows_ofFields {required : List String}
    {properties : List (String × Property Name)} {fields : List (String × Json)}
    (hrequired : ∀ key ∈ required, key ∈ fields.map Prod.fst)
    (hfits : ∀ field ∈ fields, Schema.fits named properties field = true) :
    (record required properties).allows named (.ofFields fields) = true := by
  rw [record, Schema.allows_all]
  simp only [List.forall_mem_cons, List.not_mem_nil, false_implies, implies_true, and_true]
  exact ⟨by simp [Json.ofFields], Schema.allows_required_ofFields.2 hrequired,
    Schema.allows_closed_ofFields hfits⟩

/-- What is missing has no field, so that only the fields that are present matter. -/
theorem record_allows_ofPresent {required : List String}
    {properties : List (String × Property Name)} {fields : List (String × Option Json)}
    (hrequired : ∀ key ∈ required, ∃ j, (key, some j) ∈ fields)
    (hfits : ∀ field ∈ fields, ∀ j, field.2 = some j →
      Schema.fits named properties (field.1, j) = true) :
    (record required properties).allows named (.ofPresent fields) = true := by
  refine record_allows_ofFields ?_ ?_
  · intro key hkey
    obtain ⟨j, hj⟩ := hrequired key hkey
    exact List.mem_map.2 ⟨(key, j), List.mem_filterMap.2 ⟨(key, some j), hj, rfl⟩, rfl⟩
  · intro field hfield
    obtain ⟨⟨key, value⟩, hmem, hvalue⟩ := List.mem_filterMap.1 hfield
    obtain ⟨j, hj, rfl⟩ := Option.map_eq_some_iff.1 hvalue
    exact hfits _ hmem j hj

theorem isSome_field?_of_record_allows {required : List String}
    {properties : List (String × Property Name)} {j : Json} {key : String}
    (h : (record required properties).allows named j = true) (hkey : key ∈ required) :
    (j.field? key).isSome = true := by
  simp only [record, Schema.allows_all, List.forall_mem_cons, Schema.allows_kind] at h
  obtain ⟨hrecord, hrequired, -⟩ := h
  cases j with
  | record fields => exact Schema.allows_required.1 hrequired key hkey
  | _ => cases hrecord

theorem fits_of_record_allows {required : List String}
    {properties : List (String × Property Name)} {j value : Json} {key : String}
    (h : (record required properties).allows named j = true) (hvalue : j.field? key = some value) :
    Schema.fits named properties (key, value) = true := by
  simp only [record, Schema.allows_all, List.forall_mem_cons] at h
  exact Schema.fits_of_allows_closed h.2.2.1 hvalue

/-- Details of one of the forms; those forms have different tags. -/
theorem details_allows_ofFields {tag : String} {f : Form Name} {fields : List (String × Json)}
    (hf : forms.filter (·.tag == tag) = [f]) (hkind : "kind" ∉ fields.map Prod.fst)
    (hfits : ∀ field ∈ fields, Schema.fits named f.properties field = true)
    (hfurther : ∀ s ∈ f.further,
      s.allows named (.ofFields (("kind", .text tag) :: fields)) = true) :
    details.allows named (.ofFields (("kind", .text tag) :: fields)) = true := by
  have hkey : ∀ field ∈ fields, field.1 ≠ "kind" := fun field hfield heq =>
    hkind (heq ▸ List.mem_map_of_mem hfield)
  have htag : f.tag = tag := by
    have hmem : f ∈ forms.filter (·.tag == tag) := by simp [hf]
    exact eq_of_beq (List.mem_filter.1 hmem).2
  have hform :
      (f.schema "kind").allows named (.ofFields (("kind", .text tag) :: fields)) = true := by
    subst htag
    exact Form.allows_ofFields hkey hfits hfurther
  rw [details, Schema.allows_all]
  simp only [List.forall_mem_cons, List.not_mem_nil, false_implies, implies_true, and_true]
  exact ⟨by simp [Json.ofFields], Schema.allows_required_ofFields.2 (by simp),
    Schema.allows_exactlyOne_ofFields hf hkey hform⟩

/-- Details with all properties of a form. -/
theorem details_allows_properties {tag : String} {properties : List (String × Property Name)}
    {fields : List (String × Json)}
    (hf : forms.filter (·.tag == tag) = [.ofProperties tag properties])
    (hkeys : fields.map Prod.fst = properties.map Prod.fst)
    (hkind : "kind" ∉ properties.map Prod.fst)
    (hfits : ∀ field ∈ fields, Schema.fits named properties field = true) :
    details.allows named (.ofFields (("kind", .text tag) :: fields)) = true := by
  refine details_allows_ofFields hf (hkeys ▸ hkind) hfits fun s hs => ?_
  obtain rfl := List.mem_singleton.1 hs
  rw [Schema.allows_required_ofFields, List.map_cons, hkeys]
  exact fun key hkey => List.mem_cons_of_mem _ hkey

/-- Details of a rule, with at most one body. -/
theorem details_allows_rule {fields : List (String × Json)}
    (hkind : "kind" ∉ fields.map Prod.fst) (hcondition : "condition" ∈ fields.map Prod.fst)
    (hbody : "consequence" ∉ fields.map Prod.fst ∨ "action" ∉ fields.map Prod.fst)
    (hfits : ∀ field ∈ fields, Schema.fits named ruleForm.properties field = true) :
    details.allows named (.ofFields (("kind", .text "rule") :: fields)) = true := by
  refine details_allows_ofFields (f := ruleForm) rfl hkind hfits ?_
  have hbodies : (Schema.required ["consequence", "action"]).allows named
      (.ofFields (("kind", .text "rule") :: fields)) = false := by
    rw [← Bool.not_eq_true, Schema.allows_required_ofFields]
    rintro h
    rcases hbody with hbody | hbody
    · exact hbody (List.mem_of_ne_of_mem (by decide) (h "consequence" (by simp)))
    · exact hbody (List.mem_of_ne_of_mem (by decide) (h "action" (by simp)))
  simp only [ruleForm, List.forall_mem_cons, List.not_mem_nil, false_implies, implies_true,
    and_true, Schema.allows_not, hbodies, Bool.not_false]
  exact Schema.allows_required_ofFields.2 (by simpa using hcondition)

/-! ## Evidence -/

theorem isDateTime_of_written {t : Instant} {text : String} (h : t.written = .ok text) :
    Schema.isDateTime text = true := by
  have hwritable := Instant.isWritable_of_written h
  rw [Instant.written_of_isWritable hwritable] at h
  cases h
  obtain ⟨hlow, hhigh, -⟩ := Instant.isWritable_iff.1 hwritable
  have hlen : (Instant.dateText t.date).length = 10 :=
    Instant.length_dateText (CivilDate.isValid_ofDays _) hlow hhigh
  have hseparator : t.text.toList[10]? = some 'T' := by
    rw [Instant.toList_text hwritable, List.getElem?_append_right (by omega), hlen]
    rfl
  rw [Schema.isDateTime, Instant.ofRfc3339?_text hwritable, hseparator]
  rfl

/-- The details of a test show its values, and name its operator. -/
theorem details_allows_test {now : Instant} {shown : Details} {outcome : Except Failure Bool}
    {j : Json} (h : shown.outcome? now = some outcome)
    (hj : Evidence.detailsDocument shown = .ok (some j)) : details.allows named j = true := by
  cases shown with
  | comparison left op right =>
    cases hj
    refine details_allows_properties rfl rfl (by decide) ?_
    cases op <;> simp [comparison, Comparison.keyword]
  | membership value isNegated values =>
    cases hj
    refine details_allows_properties rfl rfl (by decide) ?_
    simp
  | range value lower upper =>
    cases hj
    refine details_allows_properties rfl rfl (by decide) ?_
    simp
  | textTest value op pattern =>
    cases hj
    refine details_allows_properties rfl rfl (by decide) ?_
    cases op <;> simp [TextTest.keyword]
  | timeTest value op reference recorded =>
    obtain ⟨text, htext, hj⟩ := Except.bind_eq_ok hj
    cases hj
    refine details_allows_properties rfl rfl (by decide) ?_
    cases op <;> simp [TimeTest.keyword, isDateTime_of_written htext]
  | truthiness operand value =>
    cases hj
    refine details_allows_properties rfl rfl (by decide) ?_
    simp
  | presence operand demand value =>
    cases hj
    refine details_allows_properties rfl rfl (by decide) ?_
    cases demand <;> simp [Demand.keyword]
  | literal b =>
    cases hj
    refine details_allows_properties rfl rfl (by decide) ?_
    simp
  | _ => cases h

theorem result_allows_node {b : Bool} {reason : String} {error : Option Failure} {shown : Details}
    {j : Json} (hj : (Evidence.node b reason error shown).document = .ok j)
    (h : ∀ i, Evidence.detailsDocument shown = .ok (some i) → details.allows named i = true) :
    result.allows named j = true := by
  obtain ⟨i, hi, hj⟩ := Except.bind_eq_ok hj
  cases hj
  refine record_allows_ofPresent (by simp) ?_
  simp +contextual [h, hi]

theorem action_allows_toJson (a : ActionRecord) : action.allows named a.toJson = true := by
  refine record_allows_ofFields (by simp) ?_
  cases a.verb <;> simp [Verb.keyword]

theorem result_allows_document {now : Instant} {e : Evidence} (h : e.Justified now) {j : Json}
    (hj : e.document = .ok j) : result.allows named j = true := by
  induction h generalizing j with
  | missing => exact result_allows_node hj fun i hi => by cases hi
  | test h => exact result_allows_node hj fun i hi => details_allows_test h hi
  | failure h => exact result_allows_node hj fun i hi => details_allows_test h hi
  | logical hl hr ihl ihr =>
    rename_i op _
    refine result_allows_node hj fun i hi => ?_
    obtain ⟨l, hleft, hi⟩ := Except.bind_eq_ok hi
    obtain ⟨r, hright, hi⟩ := Except.bind_eq_ok hi
    cases hi
    refine details_allows_properties rfl rfl (by decide) ?_
    cases op <;> simp [Connective.keyword, ihl hleft, ihr hright]
  | negation h he ih =>
    refine result_allows_node hj fun i hi => ?_
    obtain ⟨k, hinner, hi⟩ := Except.bind_eq_ok hi
    cases hi
    refine details_allows_properties rfl rfl (by decide) ?_
    simp [ih hinner]
  | negatedFailure h he ih =>
    refine result_allows_node hj fun i hi => ?_
    obtain ⟨k, hinner, hi⟩ := Except.bind_eq_ok hi
    cases hi
    refine details_allows_properties rfl rfl (by decide) ?_
    simp [ih hinner]
  | notMet h hr ih =>
    refine result_allows_node hj fun i hi => ?_
    obtain ⟨c, hcondition, hi⟩ := Except.bind_eq_ok hi
    cases hi
    refine details_allows_rule (by simp) (by simp) (.inl (by simp)) ?_
    simp [ruleForm, ih hcondition]
  | demanded h hr hc ih ihc =>
    refine result_allows_node hj fun i hi => ?_
    obtain ⟨c, hcondition, hi⟩ := Except.bind_eq_ok hi
    obtain ⟨k, hconsequence, hi⟩ := Except.bind_eq_ok hi
    cases hi
    refine details_allows_rule (by simp) (by simp) (.inr (by simp)) ?_
    simp [ruleForm, ih hcondition, ihc hconsequence]
  | acted h hr ih =>
    refine result_allows_node hj fun i hi => ?_
    obtain ⟨c, hcondition, hi⟩ := Except.bind_eq_ok hi
    cases hi
    refine details_allows_rule (by simp) (by simp) (.inl (by simp)) ?_
    simp [ruleForm, ih hcondition, action_allows_toJson]

/-- The schema has no form for rules with both bodies. -/
theorem details_refuses_both_bodies {j consequence action : Json}
    (hkind : j.field? "kind" = some (.text "rule"))
    (hconsequence : j.field? "consequence" = some consequence)
    (haction : j.field? "action" = some action) : details.allows named j = false := by
  cases j with
  | record fields =>
    rw [← Bool.not_eq_true, details, Schema.allows_all]
    intro h
    have hcount : forms.countP (fun f => (f.schema "kind").allows named (.record fields)) = 1 := by
      have hforms := Schema.allows_exactlyOne.1
        (h (.exactlyOne (forms.map (Form.schema "kind"))) (by simp))
      rwa [List.countP_map] at hforms
    obtain ⟨f, hf, hallows⟩ := List.countP_pos_iff.1 (hcount ▸ Nat.one_pos)
    have hrule : f = ruleForm := by
      have htag : (f.tag == "rule") = true := beq_iff_eq.2 (Form.tag_eq_of_allows hkind hallows)
      have hmem : f ∈ forms.filter (·.tag == "rule") := List.mem_filter.2 ⟨hf, htag⟩
      exact List.mem_singleton.1 hmem
    subst hrule
    have hnot := Schema.allows_all.1 hallows (.not (.required ["consequence", "action"]))
      (by simp [ruleForm])
    rw [Schema.allows_not, Bool.not_eq_true', ← Bool.not_eq_true, Schema.allows_required] at hnot
    exact hnot (by simp [hconsequence, haction])
  | _ => cases hkind

/-! ## Decisions -/

theorem provenance_allows_toJson (p : Provenance) : provenance.allows named p.toJson = true := by
  refine record_allows_ofFields (by simp) ?_
  simp

theorem decision_allows_document {now : Instant} {d : Decision} {j : Json}
    (h : d.outcome.Justified now) (hj : d.document = .ok j) : decision.allows named j = true := by
  obtain ⟨evaluatedAt, hevaluatedAt, hj⟩ := Except.bind_eq_ok hj
  obtain ⟨outcome, houtcome, hj⟩ := Except.bind_eq_ok hj
  cases hj
  refine record_allows_ofPresent (by simp) ?_
  simp [isDateTime_of_written hevaluatedAt, result_allows_document h houtcome,
    provenance_allows_toJson]

/-- A decision is no outcome: those do not tell when they were reached. -/
theorem conforms_of_decision {j : Json} (h : decision.allows named j = true) :
    conforms j = true := by
  have hresult : result.allows named j = false := by
    rw [← Bool.not_eq_true]
    intro hresult
    have hsome := isSome_field?_of_record_allows h (show "evaluated_at" ∈ _ by simp)
    obtain ⟨evaluatedAt, hat⟩ := Option.isSome_iff_exists.1 hsome
    have hfits := fits_of_record_allows hresult hat
    simp at hfits
  rw [conforms, Schema.allows_exactlyOne]
  simp [h, hresult]

theorem conforms_of_result {e : Evidence} {j : Json} (hj : e.document = .ok j)
    (h : result.allows named j = true) : conforms j = true := by
  have hdecision : decision.allows named j = false := by
    rw [← Bool.not_eq_true]
    intro hdecision
    have hsome := isSome_field?_of_record_allows hdecision (show "evaluated_at" ∈ _ by simp)
    obtain ⟨b, reason, error, shown⟩ := e
    obtain ⟨i, -, hj⟩ := Except.bind_eq_ok hj
    cases hj
    rw [Json.ofPresent, Json.ofFields, Json.field?, Keyed.isSome_find?_ofList] at hsome
    simp at hsome
  rw [conforms, Schema.allows_exactlyOne]
  simp [h, hdecision]

end Published

/-- A decision as of a year of four digits and an offset of whole minutes has a document just in case
the offset is below a day, whatever name the rule goes by; its outcome then has one, too, and beyond
that where no node records the instant. Those documents have the published shape, which leaves no
room for a rule with both bodies. -/
theorem Decision.conforms_published {env : Environment} {rule : Rule} {d : Decision}
    (h : rule.decide? env = some d) (hlow : 0 ≤ env.now.date.year)
    (hhigh : env.now.date.year ≤ 9999) (hoffset : env.now.offset % 60 = 0)
    (ruleId : Option String) :
    (({ d with ruleId := ruleId } : Decision).toJson?.isSome = true ↔
      env.now.offset.natAbs < 86400) ∧
    (d.outcome.toJson?.isSome = true ↔
      env.now.offset.natAbs < 86400 ∨ ∀ n ∈ d.outcome.nodes, n.details.instant? = none) ∧
    (∀ j, ({ d with ruleId := ruleId } : Decision).toJson? = some j →
      Published.conforms j = true) ∧
    (∀ j, d.outcome.toJson? = some j → Published.conforms j = true) ∧
    ∀ j consequence action, j.field? "kind" = some (.text "rule") →
      j.field? "consequence" = some consequence → j.field? "action" = some action →
        Published.details.allows Published.named j = false := by
  have hjustified : d.outcome.Justified env.now := by
    rw [Rule.eq_of_decide? h]
    exact rule.evaluate_justified
  have hwritable : env.now.isWritable = true ↔ env.now.offset.natAbs < 86400 := by
    rw [Instant.isWritable_iff, Instant.IsWholeOffset]
    omega
  refine ⟨?_, ?_, fun j hj => ?_, fun j hj => ?_, fun j consequence action =>
    Published.details_refuses_both_bodies⟩
  · rw [toJson?, Except.isSome_toOption_iff, exists_document_iff h, hwritable]
  · rw [Evidence.toJson?, Except.isSome_toOption_iff, hjustified.exists_document_iff, hwritable]
  · exact Published.conforms_of_decision (Published.decision_allows_document
      (d := { d with ruleId := ruleId }) hjustified (Except.eq_ok_of_toOption hj))
  · have hdocument := Except.eq_ok_of_toOption hj
    exact Published.conforms_of_result hdocument
      (Published.result_allows_document hjustified hdocument)

/-- A condition with a call that fails below `NOT`, and that holds all the same. -/
theorem Decision.conforms_published_failing_call :
    ∃ d : Decision,
      Rule.decide? ⟨⟨[("open", .bool true)]⟩, Instant.epoch, FunctionTable.empty⟩
        ⟨.logical (.negation (.truthiness (.call "LATER"))) .or (.truthiness (.variable "open")),
          .consequence (.presence (.variable "open") .required)⟩ = some d ∧
      (∃ j, ({ d with ruleId := some "R1" } : Decision).toJson? = some j ∧
        Published.conforms j = true) ∧
      ∃ j, d.outcome.toJson? = some j ∧ Published.conforms j = true := by
  obtain ⟨hdecision, houtcome, hconforms, hconforms', -⟩ := @Decision.conforms_published
    ⟨⟨[("open", .bool true)]⟩, Instant.epoch, FunctionTable.empty⟩
    ⟨.logical (.negation (.truthiness (.call "LATER"))) .or (.truthiness (.variable "open")),
      .consequence (.presence (.variable "open") .required)⟩ _ rfl (by decide) (by decide)
    (by decide) (some "R1")
  obtain ⟨j, hj⟩ := Option.isSome_iff_exists.1 (hdecision.2 (by decide))
  obtain ⟨i, hi⟩ := Option.isSome_iff_exists.1 (houtcome.2 (.inl (by decide)))
  exact ⟨_, rfl, ⟨j, hj, hconforms j hj⟩, i, hi, hconforms' i hi⟩

/-- A day ahead of UTC there is a decision on a test on time, but no document of it, nor of its
outcome. -/
theorem Decision.no_document_dayAhead :
    let now : Instant := ⟨1717156800000000000, 86400, by decide⟩
    now.date.year = 2024 ∧ now.offset % 60 = 0 ∧
      ∃ d : Decision,
        Rule.decide? ⟨⟨[]⟩, now, .standard⟩
          ⟨.timeTest (.variable "a") .before (.call "NOW"), .consequence (.literal true)⟩ = some d ∧
        d.toJson? = none ∧ d.outcome.toJson? = none := by
  refine ⟨by decide, by decide, _, rfl, ?_, ?_⟩ <;> rfl

end Compliance
