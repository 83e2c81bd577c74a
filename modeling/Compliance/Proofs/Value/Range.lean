import Compliance.Functions
import Compliance.Proofs.Context
import Compliance.Proofs.Instant.Range
import Compliance.Proofs.Keyed

/-!
# Compliance.Proofs.Value.Range

Which values are in range, and that those of data and of the standard functions are.

* `Value.InRange`                         — sixty-four bits hold the seconds of every span in a value.
* `Context.inRange_resolve`               — the values of a document.
* `FunctionTable.inRange_call_standard`   — the values of the standard functions.
* `FunctionTable.lacksValue_standard_iff` — the standard function that may have none.
-/

namespace Compliance

/-- Sixty-four bits hold the seconds of every span in a value. Decimals and instants are in range by
their types. -/
inductive Value.InRange : Value → Prop where
  | null : InRange .null
  | bool (b : Bool) : InRange (.bool b)
  | number (d : Decimal) : InRange (.number d)
  | text (s : String) : InRange (.text s)
  | instant (t : Instant) : InRange (.instant t)
  | span {s : Span} (h : s.InRange) : InRange (.span s)
  | list {items : List Value} (h : ∀ v ∈ items, InRange v) : InRange (.list items)
  | record {fields : List (String × Value)} (h : ∀ p ∈ fields, InRange p.2) :
      InRange (.record fields)

namespace Value

/-! ## Data -/

mutual

theorem inRange_ofJson : ∀ (j : Json) {v : Value}, ofJson j = .ok v → v.InRange
  | .null, _, h => by cases h; exact .null
  | .bool b, _, h => by cases h; exact .bool b
  | .text s, _, h => by cases h; exact .text s
  | .number n, _, h => by
    rw [ofJson] at h
    obtain ⟨d, -, rfl⟩ := Except.map_eq_ok h
    exact .number d
  | .list items, _, h => by
    rw [ofJson] at h
    obtain ⟨vs, hvs, rfl⟩ := Except.map_eq_ok h
    exact .list (inRange_ofItems items hvs)
  | .record fields, _, h => by
    rw [ofJson] at h
    obtain ⟨ps, hps, rfl⟩ := Except.map_eq_ok h
    exact .record (inRange_ofFields fields hps)

theorem inRange_ofItems : ∀ (items : List Json) {vs : List Value}, ofItems items = .ok vs →
    ∀ v ∈ vs, v.InRange
  | [], _, h => by cases h; nofun
  | j :: rest, _, h => by
    rw [ofItems] at h
    split at h
    · cases h
    · rename_i v hv
      obtain ⟨vs, hvs, rfl⟩ := Except.map_eq_ok h
      exact List.forall_mem_cons.2 ⟨inRange_ofJson j hv, inRange_ofItems rest hvs⟩

theorem inRange_ofFields : ∀ (fields : List (String × Json)) {ps : List (String × Value)},
    ofFields fields = .ok ps → ∀ p ∈ ps, p.2.InRange
  | [], _, h => by cases h; nofun
  | (key, j) :: rest, _, h => by
    rw [ofFields] at h
    split at h
    · cases h
    · rename_i v hv
      obtain ⟨ps, hps, rfl⟩ := Except.map_eq_ok h
      exact List.forall_mem_cons.2 ⟨inRange_ofJson j hv, inRange_ofFields rest hps⟩

end

theorem InRange.child? {v w : Value} {segment : List Char} (h : v.InRange)
    (hw : v.child? segment = some w) : w.InRange := by
  cases h with
  | list hitems =>
    obtain ⟨i, -, hi⟩ := Option.bind_eq_some_iff.1 hw
    exact hitems w (List.mem_of_getElem? hi)
  | record hfields => exact hfields _ (Keyed.mem_of_find? hw)
  | _ => cases hw

end Value

theorem Context.inRange_resolve {doc : Json} {context : Context} (h : ofJson doc = .ok context)
    (path : String) : (context.resolve path).InRange := by
  have hroot : (Value.record context.root).InRange := Value.inRange_ofJson doc (ofJson_eq_ok.1 h)
  exact resolve_of_child? (fun hv hw => hv.child? hw) hroot .null path

/-! ## Functions -/

namespace FunctionTable

theorem find?_standard (name : String) :
    standard.find? name =
      if name = "TODAY" then some today else if name = "NOW" then some now else none := by
  rw [find?, standard, register]
  by_cases htoday : name = "TODAY"
  · rw [if_pos htoday, htoday]
    exact Keyed.find?_insert_self _ _ _
  · rw [if_neg htoday, Keyed.find?_insert_of_ne htoday, register]
    by_cases hnow : name = "NOW"
    · rw [if_pos hnow, hnow]
      exact Keyed.find?_insert_self _ _ _
    · rw [if_neg hnow, Keyed.find?_insert_of_ne hnow]
      rfl

/-- Only `TODAY` can lack a value: at an instant whose date in UTC is not in the calendar. -/
theorem lacksValue_standard_iff {name : String} {t : Instant} :
    standard.lacksValue name t = true ↔ name = "TODAY" ∧ t.toUtc? = none := by
  rw [lacksValue, find?_standard]
  by_cases htoday : name = "TODAY"
  · simp [htoday, today, Instant.utcMidnight?_eq_none_iff]
  · by_cases hnow : name = "NOW" <;> simp [htoday, hnow, now]

theorem inRange_call_standard {name : String} {t : Instant} {v : Value}
    (h : standard.call name t = .ok v) : v.InRange := by
  rw [call, find?_standard] at h
  by_cases htoday : name = "TODAY"
  · cases hmidnight : t.utcMidnight? with
    | none => simp [htoday, today, hmidnight] at h
    | some u =>
      obtain rfl : .instant u = v := by simpa [htoday, today, hmidnight] using h
      exact .instant u
  · by_cases hnow : name = "NOW"
    · obtain rfl : .instant t = v := by simpa [hnow, now] using h
      exact .instant t
    · simp [htoday, hnow] at h

end FunctionTable

end Compliance
