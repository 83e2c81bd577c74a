import Compliance.Proofs.Json.Keys

/-!
# Compliance.Proofs.Json.Order

Documents whose records have their fields in any order.

* `Json.sorted`       — the document with all fields in the order of their keys.
* `Json.IsWhole`      — the numbers of a document are integers of sixty-four bits.
* `Json.depth_sorted` — the order of fields does not change how deep a document nests.
* `Json.IsWhole.of_sorted` — nor which numbers it has.
-/

namespace Compliance

theorem Keyed.mem_ofList_iff {α : Type} {pairs : List (String × α)}
    (h : (pairs.map Prod.fst).Nodup) {p : String × α} : p ∈ ofList pairs ↔ p ∈ pairs := by
  refine ⟨mem_of_mem_ofList, fun hp => ?_⟩
  have hkey : (find? p.1 (ofList pairs)).isSome = true :=
    isSome_find?_ofList.2 (List.mem_map_of_mem hp)
  obtain ⟨v, hv⟩ := Option.isSome_iff_exists.1 hkey
  have hmem := mem_of_find? hv
  have hsame := (find?_eq_some_iff h).2 (mem_of_mem_ofList hmem)
  rw [(find?_eq_some_iff h).2 (show (p.1, p.2) ∈ pairs from hp)] at hsame
  cases hsame
  exact hmem

namespace Json

/-! ## Fields in the order of their keys -/

mutual

/-- The document with the fields of each record in the order of their keys. -/
def sorted : Json → Json
  | .list items => .list (sortedItems items)
  | .record fields => ofFields (sortedFields fields)
  | j => j

def sortedItems : List Json → List Json
  | [] => []
  | j :: items => sorted j :: sortedItems items

def sortedFields : List (String × Json) → List (String × Json)
  | [] => []
  | (key, j) :: fields => (key, sorted j) :: sortedFields fields

end

theorem sortedItems_eq_map (items : List Json) : sortedItems items = items.map sorted := by
  induction items with
  | nil => rfl
  | cons j items ih => rw [sortedItems, ih, List.map_cons]

theorem sortedFields_eq_map (fields : List (String × Json)) :
    sortedFields fields = fields.map fun p => (p.1, p.2.sorted) := by
  induction fields with
  | nil => rfl
  | cons p fields ih =>
    obtain ⟨key, j⟩ := p
    rw [sortedFields, ih, List.map_cons]

theorem keys_sortedFields (fields : List (String × Json)) :
    (sortedFields fields).map Prod.fst = fields.map Prod.fst := by
  rw [sortedFields_eq_map, List.map_map]
  rfl

/-- In the record that is sorted there are the same fields, sorted in turn. -/
theorem forall_mem_sortedFields {fields : List (String × Json)}
    (hkeys : (fields.map Prod.fst).Nodup) (P : Json → Prop) :
    (∀ p ∈ Keyed.ofList (sortedFields fields), P p.2) ↔ ∀ p ∈ fields, P p.2.sorted := by
  rw [← keys_sortedFields] at hkeys
  constructor
  · intro h p hp
    refine h (p.1, p.2.sorted) ((Keyed.mem_ofList_iff hkeys).2 ?_)
    rw [sortedFields_eq_map]
    exact List.mem_map_of_mem hp
  · intro h p hp
    rw [Keyed.mem_ofList_iff hkeys, sortedFields_eq_map] at hp
    obtain ⟨q, hq, rfl⟩ := List.mem_map.1 hp
    exact h q hq

/-- A record is sorted if its fields are. -/
theorem sorted_ofFields {fields : List (String × Json)} (h : ∀ p ∈ fields, p.2.sorted = p.2) :
    (ofFields fields).sorted = ofFields fields := by
  have hfields : sortedFields (Keyed.ofList fields) = Keyed.ofList fields := by
    rw [sortedFields_eq_map]
    refine (List.map_congr_left fun p hp => ?_).trans (List.map_id _)
    rw [h p (Keyed.mem_of_mem_ofList hp)]
    rfl
  rw [ofFields, sorted, hfields, ofFields,
    Keyed.ofList_of_isAscending (Keyed.isAscending_ofList fields)]

theorem sorted_list {items : List Json} (h : ∀ j ∈ items, j.sorted = j) :
    (list items).sorted = list items := by
  rw [sorted, sortedItems_eq_map, List.map_congr_left h, List.map_id']

/-! ## Depth -/

theorem listDepth_le_iff {items : List Json} {n : Nat} :
    listDepth items ≤ n ↔ ∀ j ∈ items, j.depth ≤ n := by
  induction items with
  | nil => simp [listDepth]
  | cons j items ih => rw [listDepth, Nat.max_le, ih, List.forall_mem_cons]

theorem fieldsDepth_le_iff {fields : List (String × Json)} {n : Nat} :
    fieldsDepth fields ≤ n ↔ ∀ p ∈ fields, p.2.depth ≤ n := by
  induction fields with
  | nil => simp [fieldsDepth]
  | cons p fields ih =>
    obtain ⟨key, j⟩ := p
    rw [fieldsDepth, Nat.max_le, ih, List.forall_mem_cons]

theorem depth_sorted_le_iff {d : Json} (h : d.IsKeyed) (n : Nat) :
    d.sorted.depth ≤ n ↔ d.depth ≤ n := by
  induction h generalizing n with
  | list _ ih =>
    cases n with
    | zero => exact iff_of_false (Nat.not_succ_le_zero _) (Nat.not_succ_le_zero _)
    | succ n =>
      simp only [sorted, depth, Nat.add_le_add_iff_right, listDepth_le_iff, sortedItems_eq_map,
        List.forall_mem_map]
      exact forall₂_congr fun j hj => ih j hj n
  | record hkeys _ ih =>
    cases n with
    | zero => exact iff_of_false (Nat.not_succ_le_zero _) (Nat.not_succ_le_zero _)
    | succ n =>
      simp only [sorted, ofFields, depth, Nat.add_le_add_iff_right, fieldsDepth_le_iff]
      exact (forall_mem_sortedFields hkeys (·.depth ≤ n)).trans
        (forall₂_congr fun p hp => ih p hp n)
  | _ => exact Iff.rfl

theorem depth_sorted {d : Json} (h : d.IsKeyed) : d.sorted.depth = d.depth :=
  Nat.le_antisymm ((depth_sorted_le_iff h _).2 (Nat.le_refl _))
    ((depth_sorted_le_iff h _).1 (Nat.le_refl _))

/-! ## Numbers -/

/-- Every number in a document is an integer of sixty-four bits. -/
inductive IsWhole : Json → Prop where
  | null : IsWhole .null
  | bool (b : Bool) : IsWhole (.bool b)
  | int {z : Int} (hlow : -9223372036854775808 ≤ z) (hhigh : z < 18446744073709551616) :
      IsWhole (.number (.int z))
  | text (s : String) : IsWhole (.text s)
  | list {items : List Json} (h : ∀ j ∈ items, IsWhole j) : IsWhole (.list items)
  | record {fields : List (String × Json)} (h : ∀ p ∈ fields, IsWhole p.2) :
      IsWhole (.record fields)

theorem IsWhole.ofFields {fields : List (String × Json)} (h : ∀ p ∈ fields, p.2.IsWhole) :
    (ofFields fields).IsWhole := .record fun p hp => h p (Keyed.mem_of_mem_ofList hp)

theorem IsWhole.of_sorted {d : Json} (h : d.IsKeyed) (hwhole : d.sorted.IsWhole) :
    d.IsWhole := by
  induction h with
  | list _ ih =>
    rw [sorted, sortedItems_eq_map] at hwhole
    cases hwhole with
    | list hitems => exact .list fun j hj => ih j hj (List.forall_mem_map.1 hitems j hj)
  | record hkeys _ ih =>
    rw [sorted, Json.ofFields] at hwhole
    cases hwhole with
    | record hfields =>
      exact .record fun p hp => ih p hp ((forall_mem_sortedFields hkeys IsWhole).1 hfields p hp)
  | _ => exact hwhole

end Json

end Compliance
