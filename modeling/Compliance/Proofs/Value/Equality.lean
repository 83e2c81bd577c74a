import Compliance.Proofs.Value.Keys
import Compliance.Proofs.Value.Trichotomy
import Mathlib.Data.List.Perm.Subperm

/-!
# Compliance.Proofs.Value.Equality

Equality of values can be read from either side.

* `Value.looseEq_self`    — a value equals itself.
* `Value.looseEq_comm`    — equality does not depend on the order of the two values.
* `Value.isMember_list`   — members of a list, and what the list contains.
* `Value.equality_lawful` — these together.
-/

namespace Compliance

theorem Decimal.beq_comm (m n : Decimal) : (m == n) = (n == m) := by
  have hleft : (m == n) = ((m.crossed n).1 == (m.crossed n).2) := rfl
  have hright : (n == m) = ((m.crossed n).2 == (m.crossed n).1) := rfl
  rw [hleft, hright, Bool.eq_iff_iff, beq_iff_eq, beq_iff_eq, eq_comm]

namespace Value

variable {v w : Value}

/-! ## Values without parts -/

theorem sameText_self (s : String) : sameText s s = true := by
  rw [sameText, beq_self_eq_true, Bool.true_or]

theorem sameText_comm (s t : String) : sameText s t = sameText t s := by
  rw [sameText, sameText, BEq.comm]
  cases numberOfText? s with
  | none => cases numberOfText? t <;> rfl
  | some m =>
    cases numberOfText? t with
    | none => rfl
    | some n => simp only [m.beq_comm n]

/-- A text and a value that is no text, no truth value and no instant are equal as numbers. -/
theorem samePlain_text_comm (s : String) (w : Value) :
    samePlain (.text s) w = samePlain w (.text s) := by
  cases w with
  | text t => exact sameText_comm s t
  | number d =>
    simp only [samePlain, looseNumber?, number?]
    cases numberOfText? s with
    | none => rfl
    | some m => exact m.beq_comm d
  | span | list | record =>
    simp only [samePlain, looseNumber?, number?]
    cases numberOfText? s <;> rfl
  | _ => rfl

theorem samePlain_comm (v w : Value) : samePlain v w = samePlain w v := by
  cases v with
  | text s => exact samePlain_text_comm s w
  | bool b =>
    cases w with
    | bool c => exact BEq.comm
    | number d => exact Decimal.beq_comm _ _
    | _ => rfl
  | number d =>
    cases w with
    | bool c => exact Decimal.beq_comm _ _
    | number e => exact Decimal.beq_comm _ _
    | text s => exact (samePlain_text_comm s _).symm
    | _ => rfl
  | instant t =>
    cases w with
    | instant u => exact Instant.beq_comm _ _
    | _ => rfl
  | span s =>
    cases w with
    | span t => exact BEq.comm
    | text s => exact (samePlain_text_comm s _).symm
    | _ => rfl
  | _ =>
    cases w with
    | text s => exact (samePlain_text_comm s _).symm
    | _ => rfl

/-! ## Lists and records -/

theorem looseEqAll_iff {items others : List Value} :
    looseEqAll items others = true ↔
      List.Forall₂ (fun v w => looseEq v w = true) items others := by
  induction items generalizing others with
  | nil => cases others <;> simp [looseEqAll]
  | cons v rest ih => cases others <;> simp [looseEqAll, ih]

theorem looseEqAll_comm {items others : List Value}
    (h : ∀ v ∈ items, ∀ w ∈ others, looseEq v w = looseEq w v) :
    looseEqAll items others = looseEqAll others items := by
  induction items generalizing others with
  | nil => cases others <;> rfl
  | cons v rest ih =>
    cases others with
    | nil => rfl
    | cons w others =>
      have hrest := ih fun v hv w hw =>
        h v (List.mem_cons_of_mem _ hv) w (List.mem_cons_of_mem _ hw)
      rw [looseEqAll, looseEqAll, h v List.mem_cons_self w List.mem_cons_self, hrest]

theorem looseEqFields_iff {fields others : List (String × Value)} :
    looseEqFields fields others = true ↔
      ∀ p ∈ fields, ∃ w, Keyed.find? p.1 others = some w ∧ looseEq p.2 w = true := by
  induction fields with
  | nil => simp [looseEqFields]
  | cons p rest ih =>
    obtain ⟨key, v⟩ := p
    rw [looseEqFields, Bool.and_eq_true, ih, List.forall_mem_cons]
    cases Keyed.find? key others <;> simp

/-- The keys of a record that stand in a record of the same size are all keys of that one. -/
theorem mem_keys_of_looseEqFields {fields others : List (String × Value)}
    (hkeys : (fields.map Prod.fst).Nodup) (hlength : fields.length = others.length)
    (h : looseEqFields fields others = true) {key : String} (hkey : key ∈ others.map Prod.fst) :
    key ∈ fields.map Prod.fst := by
  have hsubset : fields.map Prod.fst ⊆ others.map Prod.fst := by
    intro k hk
    obtain ⟨p, hp, rfl⟩ := List.mem_map.1 hk
    obtain ⟨w, hw, -⟩ := looseEqFields_iff.1 h p hp
    exact List.mem_map.2 ⟨_, Keyed.mem_of_find? hw, rfl⟩
  have hperm : (fields.map Prod.fst).Perm (others.map Prod.fst) :=
    (List.subperm_of_subset hkeys hsubset).perm_of_length_le (by simp [hlength])
  exact hperm.mem_iff.2 hkey

theorem looseEqFields_symm {fields others : List (String × Value)}
    (hkeys : (fields.map Prod.fst).Nodup) (hkeys' : (others.map Prod.fst).Nodup)
    (hlength : fields.length = others.length)
    (hcomm : ∀ p ∈ fields, ∀ q ∈ others, looseEq p.2 q.2 = looseEq q.2 p.2)
    (h : looseEqFields fields others = true) : looseEqFields others fields = true := by
  rw [looseEqFields_iff]
  intro q hq
  -- only the keys of the first record are looked up, but those of the second one are no others
  obtain ⟨p, hp, hkey⟩ := List.mem_map.1
    (mem_keys_of_looseEqFields hkeys hlength h (List.mem_map_of_mem hq))
  obtain ⟨w, hw, heq⟩ := looseEqFields_iff.1 h p hp
  obtain rfl : w = q.2 := by
    rw [hkey, (Keyed.find?_eq_some_iff hkeys').2 hq] at hw
    exact (Option.some.inj hw).symm
  refine ⟨p.2, ?_, by rw [← hcomm p hp q hq, heq]⟩
  rw [← hkey]
  exact (Keyed.find?_eq_some_iff hkeys).2 hp

/-! ## All values -/

theorem looseEq_self (h : v.IsKeyed) : looseEq v v = true := by
  induction h with
  | null => rfl
  | bool b => exact beq_self_eq_true b
  | number d => exact d.beq_self
  | text s => exact sameText_self s
  | instant t => exact Instant.beq_iff.2 rfl
  | span s => exact beq_self_eq_true s
  | list _ ih =>
    rw [looseEq, looseEqAll_iff]
    exact List.forall₂_same.2 ih
  | record hkeys _ ih =>
    rw [looseEq, beq_self_eq_true, Bool.true_and, looseEqFields_iff]
    intro p hp
    exact ⟨p.2, (Keyed.find?_eq_some_iff hkeys).2 hp, ih p hp⟩

theorem looseEq_comm_of_plain (hlist : ∀ items, v ≠ .list items)
    (hrecord : ∀ fields, v ≠ .record fields) : looseEq v w = looseEq w v := by
  have hplain := samePlain_comm v w
  cases v with
  | list items => exact absurd rfl (hlist items)
  | record fields => exact absurd rfl (hrecord fields)
  | _ => cases w <;> exact hplain

theorem looseEq_comm (hv : v.IsKeyed) (hw : w.IsKeyed) : looseEq v w = looseEq w v := by
  induction hv generalizing w with
  | list _ ih =>
    cases hw with
    | list hothers =>
      rw [looseEq, looseEq]
      exact looseEqAll_comm fun v hv w hw => ih v hv (hothers w hw)
    | record => rfl
    | _ => exact (looseEq_comm_of_plain (by rintro _ ⟨⟩) (by rintro _ ⟨⟩)).symm
  | record hkeys _ ih =>
    cases hw with
    | record hkeys' hothers =>
      have hcomm := fun p hp q hq => ih p hp (hothers q hq)
      rw [looseEq, looseEq, Bool.eq_iff_iff, Bool.and_eq_true, Bool.and_eq_true, beq_iff_eq,
        beq_iff_eq]
      constructor
      · rintro ⟨hlength, h⟩
        exact ⟨hlength.symm, looseEqFields_symm hkeys hkeys' hlength hcomm h⟩
      · rintro ⟨hlength, h⟩
        exact ⟨hlength.symm, looseEqFields_symm hkeys' hkeys hlength
          (fun q hq p hp => (hcomm p hp q hq).symm) h⟩
    | list => rfl
    | _ => exact (looseEq_comm_of_plain (by rintro _ ⟨⟩) (by rintro _ ⟨⟩)).symm
  | _ => exact looseEq_comm_of_plain (by rintro _ ⟨⟩) (by rintro _ ⟨⟩)

/-! ## Membership -/

/-- To be a member of a list and to be contained in it are the same for all but missing data, apart
from the list itself being a member. -/
theorem isMember_list {items : List Value} (hitems : (list items).IsKeyed) (hv : v.IsKeyed)
    (hnull : v.isNull = false) :
    isMember v [.list items] = (contains (.list items) v || looseEq v (.list items)) := by
  have hcontains : contains (.list items) v = items.any fun item => looseEq item v := by
    cases v with
    | null => cases hnull
    | _ => rfl
  have hany : (items.any fun item => looseEq v item) = items.any fun item => looseEq item v := by
    cases hitems with
    | list h =>
      rw [Bool.eq_iff_iff, List.any_eq_true, List.any_eq_true]
      refine exists_congr fun item => and_congr_right fun hitem => ?_
      rw [looseEq_comm hv (h item hitem)]
  rw [hcontains, ← hany, Bool.or_comm]
  simp [isMember]

/-- Equality of values is reflexive and symmetric, at any depth, so that a value that is not missing
is a member of a list just in case the list contains it or is equal to it. This holds of values
whose records have each key once, as all those have that paths lead to. -/
theorem equality_lawful {items : List Value} (hv : v.IsKeyed) (hw : w.IsKeyed)
    (hitems : (list items).IsKeyed) :
    looseEq v v = true ∧
    looseEq v w = looseEq w v ∧
    (v.isNull = false → (isMember v [.list items] = true ↔
      contains (.list items) v = true ∨ looseEq v (.list items) = true)) ∧
    (∀ (source : String) (doc : Json) (context : Context), Json.ofText? source = .ok doc →
      Context.ofJson doc = .ok context → ∀ path, (context.resolve path).IsKeyed) := by
  refine ⟨looseEq_self hv, looseEq_comm hv hw, fun hnull => ?_, ?_⟩
  · rw [isMember_list hitems hv hnull, Bool.or_eq_true]
  · intro source doc context hread hdata
    exact Context.isKeyed_resolve hread hdata

/-- Two records with a number in two spellings, and a list with one of them. -/
theorem equality_lawful_nested :
    let v : Value := .record [("n", .number .one), ("tags", .list [.text "pep", .bool true])]
    let w : Value := .record [("n", .text "1.0"), ("tags", .list [.text "pep", .number .one])]
    v.IsKeyed ∧ w.IsKeyed ∧ (list [w]).IsKeyed ∧ v.isNull = false ∧
      looseEq v w = true ∧ looseEq w v = true ∧ looseEq v v = true ∧
      isMember v [.list [w]] = true ∧ contains (.list [w]) v = true := by
  intro v w
  have hv : v.IsKeyed := by
    refine .record (by decide) ?_
    simp only [List.forall_mem_cons, List.not_mem_nil, false_implies, implies_true, and_true]
    refine ⟨.number _, .list ?_⟩
    simp only [List.forall_mem_cons, List.not_mem_nil, false_implies, implies_true, and_true]
    exact ⟨.text _, .bool _⟩
  have hw : w.IsKeyed := by
    refine .record (by decide) ?_
    simp only [List.forall_mem_cons, List.not_mem_nil, false_implies, implies_true, and_true]
    refine ⟨.text _, .list ?_⟩
    simp only [List.forall_mem_cons, List.not_mem_nil, false_implies, implies_true, and_true]
    exact ⟨.text _, .number _⟩
  have hitems : (list [w]).IsKeyed := .list (List.forall_mem_singleton.2 hw)
  have heq : looseEq v w = true := by decide +kernel
  have hcontains : contains (.list [w]) v = true := by decide +kernel
  obtain ⟨hself, hcomm, hmember, -⟩ := equality_lawful hv hw hitems
  exact ⟨hv, hw, hitems, rfl, heq, hcomm ▸ heq, hself, (hmember rfl).2 (.inl hcontains), hcontains⟩

end Value

end Compliance
