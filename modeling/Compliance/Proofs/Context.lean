import Compliance.Context
import Compliance.Proofs.Except

/-!
# Compliance.Proofs.Context

What the values of a document are made of, and where paths lead.

* `Value.exists_of_mem_ofItems`, `Value.exists_of_mem_ofFields` — each part is the value of a part.
* `Context.ofJson_eq_ok`      — the data of a document are its fields.
* `Context.resolve_of_child?` — what passes from a value to its parts holds of all that paths lead to.
-/

namespace Compliance

namespace Value

theorem keys_ofFields {fields : List (String × Json)} {ps : List (String × Value)}
    (h : ofFields fields = .ok ps) : ps.map Prod.fst = fields.map Prod.fst := by
  induction fields generalizing ps with
  | nil =>
    cases h
    rfl
  | cons p rest ih =>
    obtain ⟨key, j⟩ := p
    rw [ofFields] at h
    split at h
    · cases h
    · obtain ⟨ps', hps', rfl⟩ := Except.map_eq_ok h
      rw [List.map_cons, List.map_cons, ih hps']

theorem exists_of_mem_ofItems {items : List Json} {vs : List Value} (h : ofItems items = .ok vs)
    {v : Value} (hv : v ∈ vs) : ∃ j ∈ items, ofJson j = .ok v := by
  induction items generalizing vs with
  | nil =>
    cases h
    cases hv
  | cons j rest ih =>
    rw [ofItems] at h
    split at h
    · cases h
    · rename_i w hw
      obtain ⟨ws, hws, rfl⟩ := Except.map_eq_ok h
      rcases List.mem_cons.1 hv with rfl | hv
      · exact ⟨j, List.mem_cons_self, hw⟩
      · obtain ⟨i, hi, heq⟩ := ih hws hv
        exact ⟨i, List.mem_cons_of_mem _ hi, heq⟩

theorem exists_of_mem_ofFields {fields : List (String × Json)} {ps : List (String × Value)}
    (h : ofFields fields = .ok ps) {p : String × Value} (hp : p ∈ ps) :
    ∃ q ∈ fields, ofJson q.2 = .ok p.2 := by
  induction fields generalizing ps with
  | nil =>
    cases h
    cases hp
  | cons q rest ih =>
    obtain ⟨key, j⟩ := q
    rw [ofFields] at h
    split at h
    · cases h
    · rename_i w hw
      obtain ⟨ws, hws, rfl⟩ := Except.map_eq_ok h
      rcases List.mem_cons.1 hp with rfl | hp
      · exact ⟨(key, j), List.mem_cons_self, hw⟩
      · obtain ⟨i, hi, heq⟩ := ih hws hp
        exact ⟨i, List.mem_cons_of_mem _ hi, heq⟩

/-- What passes from a value to its parts holds all along a path. -/
theorem walk?_of_child? {P : Value → Prop}
    (hchild : ∀ {v w : Value} {segment : List Char}, P v → v.child? segment = some w → P w)
    {path : List (List Char)} {v w : Value} (h : P v) (hw : v.walk? path = some w) : P w := by
  induction path generalizing v with
  | nil =>
    cases hw
    exact h
  | cons segment rest ih =>
    obtain ⟨u, hu, hwalk⟩ := Option.bind_eq_some_iff.1 hw
    exact ih (hchild h hu) hwalk

end Value

namespace Context

theorem ofJson_eq_ok {doc : Json} {context : Context} :
    ofJson doc = .ok context ↔ Value.ofJson doc = .ok (.record context.root) := by
  rw [ofJson]
  split
  · rename_i heq
    rw [heq]
    exact iff_of_false nofun nofun
  · rename_i root heq
    rw [heq]
    constructor
    · rintro ⟨⟩
      rfl
    · rintro ⟨⟩
      rfl
  · rename_i hrecord heq
    refine iff_of_false nofun fun h => ?_
    rw [h] at heq
    cases heq
    exact hrecord _ rfl

/-- A path leads to a part of the data, or to missing data. -/
theorem resolve_of_child? {P : Value → Prop}
    (hchild : ∀ {v w : Value} {segment : List Char}, P v → v.child? segment = some w → P w)
    {context : Context} (hroot : P (.record context.root)) (hnull : P .null) (path : String) :
    P (context.resolve path) := by
  rw [resolve]
  cases hw : (Value.record context.root).walk? (Text.splitOn '.' path.toList) with
  | none => exact hnull
  | some v => exact Value.walk?_of_child? hchild hroot hw

end Context

end Compliance
