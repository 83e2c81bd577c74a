import Compliance.Instant.Rfc3339
import Compliance.Json
import Compliance.Proofs.Keyed

/-!
# Compliance.Proofs.Schema

A language in which the shape of documents is described, and when a document has that shape.

* `Schema`          — what a document may be.
* `Schema.Property` — what a field may hold; a schema with a name can only be referred to there.
* `Schema.allows`   — does a document have the shape?
* `Schema.Form`     — records with a tag, of which each form has its own.
-/

namespace Compliance

inductive Json.Kind where
  | boolean
  | text
  | list
  | record
  deriving DecidableEq

@[simp] def Json.isOfKind : Json.Kind → Json → Bool
  | .boolean, .bool _ => true
  | .text, .text _ => true
  | .list, .list _ => true
  | .record, .record _ => true
  | _, _ => false

/-- A field is smaller than its record. -/
theorem Json.sizeOf_field_lt {field : String × Json} {fields : List (String × Json)}
    (h : field ∈ fields) : sizeOf field.2 < sizeOf (Json.record fields) := by
  have hlt := List.sizeOf_lt_of_mem h
  obtain ⟨key, j⟩ := field
  simp only [Prod.mk.sizeOf_spec, Json.record.sizeOf_spec] at hlt ⊢
  omega

mutual

/-- What a document may be. What is said of records, lists or texts says nothing of documents of
other kinds. -/
inductive Schema (ν : Type) where
  | anything
  | kind (k : Json.Kind)
  | oneOfTexts (texts : List String)
  /-- A text is a date and a time with an offset, joined by `T`. -/
  | dateTime
  | items (s : Schema ν)
  | required (keys : List String)
  /-- A record has no other fields than these. -/
  | closed (properties : List (String × Schema.Property ν))
  | all (parts : List (Schema ν))
  | exactlyOne (alternatives : List (Schema ν))
  | not (s : Schema ν)

inductive Schema.Property (ν : Type) where
  | inline (s : Schema ν)
  | named (name : ν)

end

namespace Schema

variable {ν : Type} {defs : ν → Schema ν}

/-- The notation of instants with the separator that the standard has. -/
def isDateTime (s : String) : Bool :=
  (Instant.ofRfc3339? s.toList).isSome && (s.toList[10]? == some 'T' || s.toList[10]? == some 't')

@[simp] def Property.schema (defs : ν → Schema ν) : Property ν → Schema ν
  | .inline s => s
  | .named name => defs name

/-- Does a document have the shape? `defs` gives the schemas that are referred to by name. -/
def allows (defs : ν → Schema ν) : Schema ν → Json → Bool
  | .anything, _ => true
  | .kind k, j => j.isOfKind k
  | .oneOfTexts texts, .text s => texts.contains s
  | .oneOfTexts _, _ => false
  | .dateTime, .text s => isDateTime s
  | .dateTime, _ => true
  | .items s, .list js => (js.map fun j => s.allows defs j).and
  | .items _, _ => true
  | .required keys, .record fields => keys.all fun key => (Keyed.find? key fields).isSome
  | .required _, _ => true
  | .closed properties, .record fields =>
    (fields.map fun field =>
      match properties.lookup field.1 with
      | some p => (p.schema defs).allows defs field.2
      | none => false).and
  | .closed _, _ => true
  | .all parts, j => (parts.map fun s => s.allows defs j).and
  | .exactlyOne alternatives, j => (alternatives.map fun s => s.allows defs j).count true == 1
  | .not s, j => !s.allows defs j
-- A reference only stands below a field, where the document gets smaller.
termination_by s j => (sizeOf j, sizeOf s)
decreasing_by
  all_goals first | decreasing_tactic | exact .left _ _ (Json.sizeOf_field_lt ‹_›)

-- The equations are made once, here, before the rules below ask for them all at the same time.
attribute [grind =] allows

/-- Is a field one of the given properties, with a value of its shape? -/
def fits (defs : ν → Schema ν) (properties : List (String × Property ν))
    (field : String × Json) : Bool :=
  match properties.lookup field.1 with
  | some p => (p.schema defs).allows defs field.2
  | none => false

@[simp] theorem fits_nil {field : String × Json} : fits defs [] field = false := rfl

@[simp] theorem fits_cons {key k : String} {p : Property ν}
    {properties : List (String × Property ν)} {j : Json} :
    fits defs ((k, p) :: properties) (key, j) =
      if key == k then (p.schema defs).allows defs j else fits defs properties (key, j) := by
  simp only [fits, List.lookup_cons]
  cases h : key == k <;> rfl

/-! ## One rule for each kind of schema -/

@[simp] theorem allows_anything {j : Json} : (Schema.anything : Schema ν).allows defs j = true := by
  rw [allows]

@[simp] theorem allows_kind {k : Json.Kind} {j : Json} :
    (Schema.kind k : Schema ν).allows defs j = j.isOfKind k := by
  rw [allows]

@[simp] theorem allows_oneOfTexts {texts : List String} {s : String} :
    (Schema.oneOfTexts texts : Schema ν).allows defs (.text s) = texts.contains s := by
  rw [allows]

@[simp] theorem allows_dateTime {s : String} :
    (Schema.dateTime : Schema ν).allows defs (.text s) = isDateTime s := by
  rw [allows]

@[simp] theorem allows_not {s : Schema ν} {j : Json} :
    (Schema.not s).allows defs j = !s.allows defs j := by
  rw [allows]

@[simp] theorem allows_all {parts : List (Schema ν)} {j : Json} :
    (Schema.all parts).allows defs j = true ↔ ∀ s ∈ parts, s.allows defs j = true := by
  simp [allows, List.and]

@[simp] theorem allows_items {s : Schema ν} {js : List Json} :
    (Schema.items s).allows defs (.list js) = true ↔ ∀ j ∈ js, s.allows defs j = true := by
  simp [allows, List.and]

theorem allows_exactlyOne {alternatives : List (Schema ν)} {j : Json} :
    (Schema.exactlyOne alternatives).allows defs j = true ↔
      alternatives.countP (fun s => s.allows defs j) = 1 := by
  rw [allows, beq_iff_eq, List.count, List.countP_map]
  simp [Function.comp_def]

theorem allows_closed {properties : List (String × Property ν)} {fields : List (String × Json)} :
    (Schema.closed properties).allows defs (.record fields) = true ↔
      ∀ field ∈ fields, fits defs properties field = true := by
  simp only [allows, List.and, List.all_map, List.all_eq_true]
  rfl

/-- A closed record has no field that is not among its properties. -/
theorem fits_of_allows_closed {properties : List (String × Property ν)} {key : String}
    {j value : Json} (h : (Schema.closed properties).allows defs j = true)
    (hvalue : j.field? key = some value) : fits defs properties (key, value) = true := by
  cases j with
  | record fields => exact allows_closed.1 h _ (Keyed.mem_of_find? hvalue)
  | _ => cases hvalue

theorem allows_closed_ofFields {properties : List (String × Property ν)}
    {fields : List (String × Json)} (h : ∀ field ∈ fields, fits defs properties field = true) :
    (Schema.closed properties).allows defs (.ofFields fields) = true :=
  allows_closed.2 fun field hfield => h field (Keyed.mem_of_mem_ofList hfield)

theorem allows_required {keys : List String} {fields : List (String × Json)} :
    (Schema.required keys : Schema ν).allows defs (.record fields) = true ↔
      ∀ key ∈ keys, ((Json.record fields).field? key).isSome = true := by
  simp only [allows, List.all_eq_true, Json.field?]

theorem allows_required_ofFields {keys : List String} {fields : List (String × Json)} :
    (Schema.required keys).allows defs (.ofFields fields) = true ↔
      ∀ key ∈ keys, key ∈ fields.map Prod.fst := by
  rw [Json.ofFields, allows_required]
  exact forall₂_congr fun key _ => Keyed.isSome_find?_ofList

/-! ## Alternatives with a tag -/

/-- Records of one form: they have a tag of their own. -/
structure Form (ν : Type) where
  tag : String
  properties : List (String × Property ν)
  /-- What else is asked of them. -/
  further : List (Schema ν)

namespace Form

/-- The form of records with all of the given fields. -/
def ofProperties (tag : String) (properties : List (String × Property ν)) : Form ν :=
  ⟨tag, properties, [.required (properties.map Prod.fst)]⟩

/-- Records of the form; the tag stands under `key`. -/
def schema (key : String) (f : Form ν) : Schema ν :=
  .all (.closed ((key, .inline (.oneOfTexts [f.tag])) :: f.properties) :: f.further)

/-- A record with another tag is not of the form. -/
theorem tag_eq_of_allows {key tag : String} {f : Form ν} {j : Json}
    (htag : j.field? key = some (.text tag)) (h : (f.schema key).allows defs j = true) :
    f.tag = tag := by
  have hfits := fits_of_allows_closed (allows_all.1 h _ List.mem_cons_self) htag
  simpa [eq_comm] using hfits

/-- Records of a form are made from its tag and from fields that are among its properties. -/
theorem allows_ofFields {key : String} {f : Form ν} {fields : List (String × Json)}
    (hkey : ∀ field ∈ fields, field.1 ≠ key)
    (hfits : ∀ field ∈ fields, fits defs f.properties field = true)
    (hfurther : ∀ s ∈ f.further,
      s.allows defs (.ofFields ((key, .text f.tag) :: fields)) = true) :
    (f.schema key).allows defs (.ofFields ((key, .text f.tag) :: fields)) = true := by
  rw [schema, allows_all, List.forall_mem_cons]
  refine ⟨allows_closed_ofFields ?_, hfurther⟩
  rw [List.forall_mem_cons]
  refine ⟨by simp, fun field hfield => ?_⟩
  have hother : (field.1 == key) = false := beq_false_of_ne (hkey field hfield)
  simpa only [fits, List.lookup_cons, hother] using hfits field hfield

end Form

/-- A record with the tag of one form, and of that form, is of exactly one form. -/
theorem allows_exactlyOne_ofFields {key tag : String} {forms : List (Form ν)} {f : Form ν}
    {fields : List (String × Json)} (hf : forms.filter (·.tag == tag) = [f])
    (hkey : ∀ field ∈ fields, field.1 ≠ key)
    (h : (f.schema key).allows defs (.ofFields ((key, .text tag) :: fields)) = true) :
    (Schema.exactlyOne (forms.map (Form.schema key))).allows defs
      (.ofFields ((key, .text tag) :: fields)) = true := by
  have htag : (Json.ofFields ((key, .text tag) :: fields)).field? key = some (.text tag) := by
    have hnone : fields.reverse.find? (·.1 == key) = none := by
      simpa [List.find?_eq_none] using hkey
    simp [hnone]
  generalize Json.ofFields ((key, .text tag) :: fields) = j at h htag
  have hfilter :=
    calc forms.filter (fun g => (g.schema key).allows defs j)
        = forms.filter (fun g => (g.schema key).allows defs j && g.tag == tag) := by
          refine List.filter_congr fun g _ => ?_
          cases hg : (g.schema key).allows defs j with
          | false => rfl
          | true => simp [Form.tag_eq_of_allows htag hg]
      _ = (forms.filter (·.tag == tag)).filter (fun g => (g.schema key).allows defs j) := by
          rw [List.filter_filter]
      _ = [f] := by simp [hf, h]
  rw [allows_exactlyOne, List.countP_map]
  exact (List.countP_eq_length_filter ..).trans (congrArg List.length hfilter)

end Schema

end Compliance
