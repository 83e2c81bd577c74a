import Compliance.Json.Reading
import Compliance.Proofs.Except
import Compliance.Proofs.Keyed

/-!
# Compliance.Proofs.Json.Keys

The records of a document that is read have each of their keys once, at any depth.

* `Json.IsKeyed`            — every record in a document has.
* `Json.isKeyed_ofFields`   — records that are made from a list of fields.
* `Json.isKeyed_of_ofText?` — documents that are read, even if a key was written several times.
-/

namespace Compliance

namespace Json

/-- Every record in a document has each of its keys once. -/
inductive IsKeyed : Json → Prop where
  | null : IsKeyed .null
  | bool (b : Bool) : IsKeyed (.bool b)
  | number (n : Number) : IsKeyed (.number n)
  | text (s : String) : IsKeyed (.text s)
  | list {items : List Json} (h : ∀ j ∈ items, IsKeyed j) : IsKeyed (.list items)
  | record {fields : List (String × Json)} (hkeys : (fields.map Prod.fst).Nodup)
      (h : ∀ p ∈ fields, IsKeyed p.2) : IsKeyed (.record fields)

theorem isKeyed_ofFields {fields : List (String × Json)} (h : ∀ p ∈ fields, p.2.IsKeyed) :
    (ofFields fields).IsKeyed :=
  .record (Keyed.nodup_keys_ofList fields) fun p hp => h p (Keyed.mem_of_mem_ofList hp)

/-! ## Reading -/

/-- What a reader returns has its keys once. -/
def Keeps (x : Except Failure (Json × List Char)) : Prop :=
  ∀ j rest, x = .ok (j, rest) → j.IsKeyed

variable {negative first : Bool} {digits places cs rest : List Char} {exponent : Int} {fuel : Nat}
  {item : List Char → Except Failure (Json × List Char)}

theorem keeps_error {f : Failure} : Keeps (.error f) := nofun

theorem keeps_number {n : Number} : Keeps (.ok (.number n, rest)) := by
  rintro _ _ ⟨⟩
  exact .number n

theorem keeps_map {α : Type} {x : Except Failure α} {f : α → Json × List Char}
    (h : ∀ a, x = .ok a → (f a).1.IsKeyed) : Keeps (x.map f) := by
  intro j rest heq
  obtain ⟨a, ha, hfa⟩ := Except.map_eq_ok heq
  have hj := h a ha
  rw [← hfa] at hj
  exact hj

theorem keeps_ite {p : Prop} [Decidable p] {x y : Except Failure (Json × List Char)}
    (hx : Keeps x) (hy : Keeps y) : Keeps (if p then x else y) := by
  split
  · exact hx
  · exact hy

theorem keeps_realNumber : Keeps (realNumber negative digits places exponent rest) := by
  simp only [realNumber]
  split
  · exact keeps_number
  · exact keeps_error

theorem keeps_wholeNumber : Keeps (wholeNumber negative digits rest) :=
  keeps_ite keeps_number (keeps_ite keeps_number keeps_realNumber)

theorem keeps_readExponent : Keeps (readExponent negative digits places cs) := by
  simp only [readExponent]
  split
  · exact keeps_error
  · exact keeps_error
  · exact keeps_ite keeps_error keeps_realNumber

theorem keeps_readFraction : Keeps (readFraction negative digits cs) := by
  rw [readFraction.eq_def]
  split
  · split
    · exact keeps_error
    · exact keeps_error
    · exact keeps_readExponent
    · exact keeps_readExponent
    · exact keeps_realNumber
  · exact keeps_readExponent
  · exact keeps_readExponent
  · exact keeps_wholeNumber

theorem keeps_readNumber : Keeps (readNumber negative cs) := by
  rw [readNumber]
  split
  · exact keeps_error
  · exact keeps_error
  · exact keeps_error
  · exact keeps_readFraction

/-- One item in front of those that are read behind it. -/
theorem isKeyed_readItems (hitem : ∀ cs, Keeps (item cs)) {js : List Json}
    (h : readItems item first fuel cs = .ok (js, rest)) : ∀ j ∈ js, j.IsKeyed := by
  induction fuel generalizing first cs js rest with
  | zero => cases h
  | succ fuel ih =>
    have hnext : ∀ cs, (item cs >>= fun p => readItems item false fuel p.2 >>= fun q =>
        .ok (p.1 :: q.1, q.2)) = .ok (js, rest) → ∀ j ∈ js, j.IsKeyed := by
      intro cs hnext
      obtain ⟨⟨j, behind⟩, hj, hnext⟩ := Except.bind_eq_ok hnext
      obtain ⟨⟨js', behind'⟩, hjs, hnext⟩ := Except.bind_eq_ok hnext
      cases hnext
      exact List.forall_mem_cons.2 ⟨hitem cs j behind hj, ih hjs⟩
    simp only [readItems] at h
    split at h
    · cases h
    · cases h
      exact List.forall_mem_nil _
    · split at h
      · exact hnext _ h
      · split at h
        · split at h
          · cases h
          · cases h
          · exact hnext _ h
        · cases h

theorem isKeyed_readField (hitem : ∀ cs, Keeps (item cs)) {p : String × Json}
    (h : readField item cs = .ok (p, rest)) : p.2.IsKeyed := by
  rw [readField.eq_def] at h
  split at h
  · obtain ⟨⟨key, behind⟩, -, h⟩ := Except.bind_eq_ok h
    simp only at h
    split at h
    · cases h
    · obtain ⟨⟨j, behind'⟩, hj, h⟩ := Except.bind_eq_ok h
      cases h
      exact hitem _ _ _ hj
    · cases h
  · cases h

theorem isKeyed_readFields (hitem : ∀ cs, Keeps (item cs)) {fields : List (String × Json)}
    (h : readFields item first fuel cs = .ok (fields, rest)) : ∀ p ∈ fields, p.2.IsKeyed := by
  induction fuel generalizing first cs fields rest with
  | zero => cases h
  | succ fuel ih =>
    have hnext : ∀ cs, (readField item cs >>= fun p => readFields item false fuel p.2 >>= fun q =>
        .ok (p.1 :: q.1, q.2)) = .ok (fields, rest) → ∀ p ∈ fields, p.2.IsKeyed := by
      intro cs hnext
      obtain ⟨⟨p, behind⟩, hp, hnext⟩ := Except.bind_eq_ok hnext
      obtain ⟨⟨fields', behind'⟩, hfields, hnext⟩ := Except.bind_eq_ok hnext
      cases hnext
      exact List.forall_mem_cons.2 ⟨isKeyed_readField hitem hp, ih hfields⟩
    simp only [readFields] at h
    split at h
    · cases h
    · cases h
      exact List.forall_mem_nil _
    · split at h
      · exact hnext _ h
      · split at h
        · split at h
          · cases h
          · cases h
          · exact hnext _ h
        · cases h

/-- A document keeps its keys if those that are nested in it do. -/
theorem keeps_readDocument_of {depth : Nat}
    (h : ∀ d, depth = d + 1 → ∀ cs, Keeps (readDocument d cs)) : Keeps (readDocument depth cs) := by
  rw [readDocument.eq_def]
  split
  · exact keeps_error
  · exact keeps_map fun _ _ => .null
  · exact keeps_map fun _ _ => .bool true
  · exact keeps_map fun _ _ => .bool false
  · exact keeps_map fun _ _ => .text _
  · exact keeps_readNumber
  · split
    · exact keeps_readNumber
    · split
      · split
        · exact keeps_error
        · rename_i depth
          have hinner := h depth rfl
          split
          · exact keeps_map fun _ hitems => .list (isKeyed_readItems hinner hitems)
          · exact keeps_map fun _ hfields => isKeyed_ofFields (isKeyed_readFields hinner hfields)
      · exact keeps_error

theorem keeps_readDocument (depth : Nat) (cs : List Char) : Keeps (readDocument depth cs) := by
  induction depth generalizing cs with
  | zero => exact keeps_readDocument_of nofun
  | succ depth ih =>
    refine keeps_readDocument_of fun d hd => ?_
    cases hd
    exact ih

/-- Records that are read have each of their keys once, even if it was written several times. -/
theorem isKeyed_of_ofText? {source : String} {j : Json} (h : ofText? source = .ok j) :
    j.IsKeyed := by
  have hwhole : readWhole source.toList = .ok j := by
    rw [ofText?] at h
    cases hread : readWhole source.toList with
    | error e =>
      rw [hread] at h
      cases h
    | ok doc =>
      rw [hread] at h
      cases h
      rfl
  obtain ⟨⟨doc, rest⟩, hdoc, hrest⟩ := Except.bind_eq_ok hwhole
  simp only at hrest
  split at hrest
  · cases hrest
    exact keeps_readDocument _ _ _ _ hdoc
  · cases hrest

end Json

end Compliance
