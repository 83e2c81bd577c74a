import Compliance.Proofs.Context
import Compliance.Proofs.Json.Keys

/-!
# Compliance.Proofs.Value.Keys

The records of data have each of their keys once, at any depth.

* `Value.IsKeyed`           — every record in a value has.
* `Value.isKeyed_ofJson`    — the values of documents.
* `Context.isKeyed_resolve` — the values that paths lead to.
-/

namespace Compliance

namespace Value

/-- Every record in a value has each of its keys once. -/
inductive IsKeyed : Value → Prop where
  | null : IsKeyed .null
  | bool (b : Bool) : IsKeyed (.bool b)
  | number (d : Decimal) : IsKeyed (.number d)
  | text (s : String) : IsKeyed (.text s)
  | instant (t : Instant) : IsKeyed (.instant t)
  | span (s : Span) : IsKeyed (.span s)
  | list {items : List Value} (h : ∀ v ∈ items, IsKeyed v) : IsKeyed (.list items)
  | record {fields : List (String × Value)} (hkeys : (fields.map Prod.fst).Nodup)
      (h : ∀ p ∈ fields, IsKeyed p.2) : IsKeyed (.record fields)

theorem isKeyed_ofJson {j : Json} (hj : j.IsKeyed) {v : Value} (h : ofJson j = .ok v) :
    v.IsKeyed := by
  induction hj generalizing v with
  | null =>
    cases h
    exact .null
  | bool b =>
    cases h
    exact .bool b
  | number n =>
    obtain ⟨d, -, rfl⟩ := Except.map_eq_ok h
    exact .number d
  | text s =>
    cases h
    exact .text s
  | list _ ih =>
    obtain ⟨vs, hvs, rfl⟩ := Except.map_eq_ok h
    refine .list fun w hw => ?_
    obtain ⟨j, hj, heq⟩ := exists_of_mem_ofItems hvs hw
    exact ih j hj heq
  | record hkeys _ ih =>
    obtain ⟨ps, hps, rfl⟩ := Except.map_eq_ok h
    refine .record ((keys_ofFields hps).symm ▸ hkeys) fun p hp => ?_
    obtain ⟨q, hq, heq⟩ := exists_of_mem_ofFields hps hp
    exact ih q hq heq

variable {v w : Value}

theorem IsKeyed.child? {segment : List Char} (h : v.IsKeyed) (hw : v.child? segment = some w) :
    w.IsKeyed := by
  cases h with
  | list hitems =>
    obtain ⟨i, -, hi⟩ := Option.bind_eq_some_iff.1 hw
    exact hitems w (List.mem_of_getElem? hi)
  | record _ hfields => exact hfields _ (Keyed.mem_of_find? hw)
  | _ => cases hw

end Value

/-- Whatever data a path leads to has each of its keys once. -/
theorem Context.isKeyed_resolve {source : String} {doc : Json} {context : Context}
    (hread : Json.ofText? source = .ok doc) (h : ofJson doc = .ok context) (path : String) :
    (context.resolve path).IsKeyed := by
  have hdoc := Json.isKeyed_of_ofText? hread
  have hroot : (Value.record context.root).IsKeyed :=
    Value.isKeyed_ofJson hdoc (ofJson_eq_ok.1 h)
  exact resolve_of_child? (fun hv hw => hv.child? hw) hroot .null path

end Compliance
