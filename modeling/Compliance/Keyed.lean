/-!
# Compliance.Keyed

Finite maps from texts, as lists in ascending order of the keys.

* `precedes`      — the order of texts, character by character.
* `Keyed.insert`  — sets a key, replacing what it held.
* `Keyed.find?`   — what a key holds.
-/

namespace Compliance

/-- The lexicographic order of texts by code point. -/
def Text.precedes : List Char → List Char → Bool
  | _, [] => false
  | [], _ :: _ => true
  | a :: as, b :: bs => a.toNat < b.toNat || (a == b && precedes as bs)

namespace Keyed

/-- Sets a key. In a list with ascending keys the order is kept. -/
def insert {α : Type} (key : String) (value : α) : List (String × α) → List (String × α)
  | [] => [(key, value)]
  | (k, v) :: rest =>
    if key == k then (key, value) :: rest
    else if Text.precedes key.toList k.toList then (key, value) :: (k, v) :: rest
    else (k, v) :: insert key value rest

def find? {α : Type} (key : String) : List (String × α) → Option α
  | [] => none
  | (k, v) :: rest => if key == k then some v else find? key rest

/-- The map with all pairs of a list; of two pairs with one key the later one counts. -/
def ofList {α : Type} (pairs : List (String × α)) : List (String × α) :=
  pairs.foldl (fun m p => insert p.1 p.2 m) []

theorem find?_insert_self {α : Type} (key : String) (value : α) (m : List (String × α)) :
    find? key (insert key value m) = some value := by
  induction m with
  | nil => simp [insert, find?]
  | cons p rest ih =>
    obtain ⟨k, v⟩ := p
    simp only [insert]
    split
    · simp [find?]
    · split
      · simp [find?]
      · simp_all [find?]

theorem find?_insert_of_ne {α : Type} {key other : String} (h : other ≠ key) (value : α)
    (m : List (String × α)) : find? other (insert key value m) = find? other m := by
  induction m with
  | nil => simp [insert, find?, h]
  | cons p rest ih =>
    obtain ⟨k, v⟩ := p
    simp only [insert]
    split
    · rename_i hk
      simp only [beq_iff_eq] at hk
      subst hk
      simp [find?, h]
    · split
      · simp [find?, h]
      · simp [find?, ih]

end Keyed

end Compliance
