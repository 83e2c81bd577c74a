import Compliance.Proofs.Decimal.Document

/-!
# Compliance.Proofs.Value.Document

Which values are read back from the documents that show them.

* `Value.leaves`              — the values without parts that a value is made of.
* `Value.Survives`            — the document of a value is read as the same value.
* `Value.survives_iff`        — a value survives if its leaves do: numbers where they are carried,
  instants and spans never.
* `Value.survives_toJson_iff` — this, and which numbers are carried.
-/

namespace Compliance.Value

mutual

/-- Are two values the same, item by item? Numbers and instants are by what they stand for. -/
def same : Value → Value → Bool
  | .null, .null => true
  | .bool b, .bool c => b == c
  | .number d, .number e => d == e
  | .text s, .text t => s == t
  | .instant t, .instant u => t == u
  | .span s, .span t => s == t
  | .list items, .list others => sameItems items others
  | .record fields, .record others => sameFields fields others
  | _, _ => false

def sameItems : List Value → List Value → Bool
  | [], [] => true
  | v :: items, w :: others => same v w && sameItems items others
  | _, _ => false

def sameFields : List (String × Value) → List (String × Value) → Bool
  | [], [] => true
  | (key, v) :: fields, (key', w) :: others => key == key' && same v w && sameFields fields others
  | _, _ => false

end

mutual

/-- The values without parts that a value is made of. -/
def leaves : Value → List Value
  | .list items => leavesOfItems items
  | .record fields => leavesOfFields fields
  | v => [v]

def leavesOfItems : List Value → List Value
  | [] => []
  | v :: items => leaves v ++ leavesOfItems items

def leavesOfFields : List (String × Value) → List Value
  | [] => []
  | (_, v) :: fields => leaves v ++ leavesOfFields fields

end

/-- Documents have numbers, but neither instants nor spans. -/
def IsCarried : Value → Prop
  | .number d => d.IsCarried
  | .instant _ | .span _ => False
  | _ => True

/-- The value is read back from its document. -/
def Survives (v : Value) : Prop := ∃ w, ofJson v.toJson = .ok w ∧ w.same v = true

def ItemsSurvive (items : List Value) : Prop :=
  ∃ ws, ofItems (itemsToJson items) = .ok ws ∧ sameItems ws items = true

def FieldsSurvive (fields : List (String × Value)) : Prop :=
  ∃ ws, ofFields (fieldsToJson fields) = .ok ws ∧ sameFields ws fields = true

theorem survives_number (d : Decimal) : (number d).Survives ↔ d.IsCarried := by
  rw [← d.ofJson_toJson_iff]
  constructor
  · rintro ⟨w, hw, hsame⟩
    cases w with
    | number e => exact ⟨e, hw, hsame⟩
    | _ => cases hsame
  · rintro ⟨e, he, hvalue⟩
    exact ⟨.number e, he, hvalue⟩

theorem survives_list (items : List Value) : (list items).Survives ↔ ItemsSurvive items := by
  constructor
  · rintro ⟨w, hw, hsame⟩
    obtain ⟨ws, hws, rfl⟩ := Except.map_eq_ok hw
    exact ⟨ws, hws, hsame⟩
  · rintro ⟨ws, hws, hsame⟩
    exact ⟨.list ws, by rw [toJson, ofJson, hws]; rfl, hsame⟩

theorem survives_record (fields : List (String × Value)) :
    (record fields).Survives ↔ FieldsSurvive fields := by
  constructor
  · rintro ⟨w, hw, hsame⟩
    obtain ⟨ws, hws, rfl⟩ := Except.map_eq_ok hw
    exact ⟨ws, hws, hsame⟩
  · rintro ⟨ws, hws, hsame⟩
    exact ⟨.record ws, by rw [toJson, ofJson, hws]; rfl, hsame⟩

theorem itemsSurvive_cons (v : Value) (items : List Value) :
    ItemsSurvive (v :: items) ↔ v.Survives ∧ ItemsSurvive items := by
  constructor
  · rintro ⟨ws, hws, hsame⟩
    rw [itemsToJson, ofItems] at hws
    cases hv : ofJson v.toJson with
    | error e =>
      rw [hv] at hws
      cases hws
    | ok w =>
      rw [hv] at hws
      obtain ⟨rest, hrest, rfl⟩ := Except.map_eq_ok hws
      rw [sameItems, Bool.and_eq_true] at hsame
      exact ⟨⟨w, hv, hsame.1⟩, ⟨rest, hrest, hsame.2⟩⟩
  · rintro ⟨⟨w, hw, hsame⟩, ⟨rest, hrest, hsame'⟩⟩
    refine ⟨w :: rest, ?_, by rw [sameItems, hsame, hsame']; rfl⟩
    rw [itemsToJson, ofItems, hw, hrest]
    rfl

theorem fieldsSurvive_cons (key : String) (v : Value) (fields : List (String × Value)) :
    FieldsSurvive ((key, v) :: fields) ↔ v.Survives ∧ FieldsSurvive fields := by
  constructor
  · rintro ⟨ws, hws, hsame⟩
    rw [fieldsToJson, ofFields] at hws
    cases hv : ofJson v.toJson with
    | error e =>
      rw [hv] at hws
      cases hws
    | ok w =>
      rw [hv] at hws
      obtain ⟨rest, hrest, rfl⟩ := Except.map_eq_ok hws
      rw [sameFields, beq_self_eq_true, Bool.true_and, Bool.and_eq_true] at hsame
      exact ⟨⟨w, hv, hsame.1⟩, ⟨rest, hrest, hsame.2⟩⟩
  · rintro ⟨⟨w, hw, hsame⟩, ⟨rest, hrest, hsame'⟩⟩
    refine ⟨(key, w) :: rest, ?_, by rw [sameFields, hsame, hsame', beq_self_eq_true]; rfl⟩
    rw [fieldsToJson, ofFields, hw, hrest]
    rfl

mutual

/-- A value is read back if each of its leaves is. -/
theorem survives_iff (v : Value) : v.Survives ↔ ∀ u ∈ v.leaves, u.IsCarried := by
  cases v with
  | null => exact iff_of_true ⟨.null, rfl, rfl⟩ (by simp [leaves, IsCarried])
  | bool b => exact iff_of_true ⟨.bool b, rfl, by simp [same]⟩ (by simp [leaves, IsCarried])
  | number d => simpa [leaves, IsCarried] using survives_number d
  | text s => exact iff_of_true ⟨.text s, rfl, by simp [same]⟩ (by simp [leaves, IsCarried])
  | instant t =>
    refine iff_of_false ?_ (by simp [leaves, IsCarried])
    rintro ⟨w, hw, hsame⟩
    cases hw
    cases hsame
  | span s =>
    refine iff_of_false ?_ (by simp [leaves, IsCarried])
    rintro ⟨w, hw, hsame⟩
    cases hw
    cases hsame
  | list items => exact (survives_list items).trans (itemsSurvive_iff items)
  | record fields => exact (survives_record fields).trans (fieldsSurvive_iff fields)

theorem itemsSurvive_iff (items : List Value) :
    ItemsSurvive items ↔ ∀ u ∈ leavesOfItems items, u.IsCarried := by
  cases items with
  | nil => exact iff_of_true ⟨[], rfl, rfl⟩ (by simp [leavesOfItems])
  | cons v items =>
    rw [itemsSurvive_cons, leavesOfItems, List.forall_mem_append, survives_iff v,
      itemsSurvive_iff items]

theorem fieldsSurvive_iff (fields : List (String × Value)) :
    FieldsSurvive fields ↔ ∀ u ∈ leavesOfFields fields, u.IsCarried := by
  cases fields with
  | nil => exact iff_of_true ⟨[], rfl, rfl⟩ (by simp [leavesOfFields])
  | cons p fields =>
    obtain ⟨key, v⟩ := p
    rw [fieldsSurvive_cons, leavesOfFields, List.forall_mem_append, survives_iff v,
      fieldsSurvive_iff fields]

end

/-- A value is read back from its document just in case its leaves are carried. Of the numbers these
are the integers of sixty-four bits and those of at most fifteen digits with at most twenty-two
places, but none of more than seventeen digits besides; two numbers that are not equal share a
document where both are read as one double, which happens to carried numbers never. -/
theorem survives_toJson_iff (v : Value) (d e : Decimal) :
    (v.Survives ↔ ∀ u ∈ v.leaves, u.IsCarried) ∧
    (∀ m k : ℕ, m < 10 ^ 15 → k ≤ 22 → |d.value| = m / 10 ^ k → d.IsCarried) ∧
    (d.IsCarried → d.IsWord ∨ ∃ (m : ℕ) (a : ℤ), m < 10 ^ 17 ∧ |d.value| = m * 10 ^ a) ∧
    (d.toJson = e.toJson ↔ (d == e) = true ∨ ¬ d.IsWord ∧ ¬ e.IsWord ∧
      d.normalize.readDouble? = e.normalize.readDouble?) ∧
    (d.IsCarried → e.IsCarried → d.toJson = e.toJson → (d == e) = true) :=
  ⟨survives_iff v, fun _ _ => Decimal.isCarried_of_digits, Decimal.IsCarried.digits,
    Decimal.toJson_eq_iff, Decimal.IsCarried.eq_of_toJson_eq⟩

/-- A tenth survives. A one behind twenty-two zeros does not, although it is a single digit: the
power of ten is rounded, too. An integer of sixty-five bits does not either, and has the document of
the one before it. -/
theorem survives_toJson_iff_beyond :
    (list [number ⟨1, 1, by decide, by decide⟩, text "x"]).Survives ∧
      ¬ (number ⟨1, 23, by decide, by decide⟩).Survives ∧
      ¬ (number ⟨18446744073709551617, 0, by decide, by decide⟩).Survives ∧
      (⟨18446744073709551617, 0, by decide, by decide⟩ : Decimal).toJson =
        (⟨18446744073709551616, 0, by decide, by decide⟩ : Decimal).toJson := by
  obtain ⟨hlist, hshort, -⟩ := survives_toJson_iff
    (list [number ⟨1, 1, by decide, by decide⟩, text "x"]) ⟨1, 1, by decide, by decide⟩ .zero
  obtain ⟨htiny, -⟩ := survives_toJson_iff (number ⟨1, 23, by decide, by decide⟩) .zero .zero
  obtain ⟨hnumber, -, hlong, hshared, -⟩ := survives_toJson_iff
    (number ⟨18446744073709551617, 0, by decide, by decide⟩)
    ⟨18446744073709551617, 0, by decide, by decide⟩ ⟨18446744073709551616, 0, by decide, by decide⟩
  have heven : (⟨18446744073709551616, 0, by decide, by decide⟩ : Decimal).value =
      (18446744073709551616 : ℕ) := by norm_num [Decimal.value]
  have hodd : (⟨18446744073709551617, 0, by decide, by decide⟩ : Decimal).value =
      (18446744073709551617 : ℕ) := by norm_num [Decimal.value]
  refine ⟨hlist.2 ?_, htiny.not.2 fun h => ?_, hnumber.not.2 fun h => ?_, hshared.2 (.inr ?_)⟩
  · have htenth := hshort 1 1 (by norm_num) (by norm_num) (by norm_num [Decimal.value])
    simp [leaves, leavesOfItems, IsCarried, htenth]
  · rcases h _ List.mem_cons_self with ⟨z, hz, -⟩ | ⟨x, hx, hshown⟩
    · rw [Decimal.value, div_eq_iff (by norm_num)] at hz
      have hnat : (1 : ℤ) = z * 10 ^ 23 := by exact_mod_cast hz
      omega
    · have hread : (⟨1, 23, by decide, by decide⟩ : Decimal).normalize.readDouble? =
          some ⟨false, 6805647338418770, -129⟩ :=
        (Binary64.ofParts?_eq _ _ (by decide)).trans (by decide +kernel)
      have hshortest : (⟨false, 6805647338418770, -129⟩ : Binary64).shortest =
          (10000000000000001, -39) := by decide +kernel
      rw [hread] at hx
      cases hx
      rw [Binary64.shown, hshortest] at hshown
      norm_num [Decimal.value, Decimal.signed] at hshown
  · rcases hlong (h _ List.mem_cons_self) with h | ⟨m, a, hm, ha⟩
    · exact Decimal.not_isWord hodd (by norm_num) h
    · -- all of its twenty digits count
      rw [hodd, abs_of_nonneg (Nat.cast_nonneg _)] at ha
      have hle := Decimal.le_of_eq_mul_zpow ha (by norm_num)
      omega
  · refine ⟨Decimal.not_isWord hodd (by norm_num), Decimal.not_isWord heven (by norm_num), ?_⟩
    -- of both only the first nineteen digits count
    have hparts : Json.significand
        (⟨18446744073709551617, 0, by decide, by decide⟩ : Decimal).normalize.wholeDigits [] =
        Json.significand
          (⟨18446744073709551616, 0, by decide, by decide⟩ : Decimal).normalize.wholeDigits [] := by
      decide +kernel
    exact congrArg (fun parts => Binary64.ofParts? false parts.1 parts.2) hparts

end Compliance.Value
