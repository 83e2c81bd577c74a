import Compliance.Json

/-!
# Compliance.Proofs.Keyed

What maps and records made from a list of pairs hold.

* `Keyed.find?_ofList`      — under a key, what the last of its pairs has.
* `Keyed.mem_of_mem_ofList` — no other pairs than those of the list.
* `Keyed.find?_eq_some_iff` — under a key of a map that has each key once, the pair with that key.
* `Keyed.nodup_keys_ofList` — a map made from a list has each key once.
* `Keyed.ofList_of_isAscending` — a map is the map with its own pairs.
-/

namespace Compliance

namespace Keyed

variable {α : Type}

theorem find?_ofList (key : String) (pairs : List (String × α)) :
    find? key (ofList pairs) = (pairs.reverse.find? (·.1 == key)).map (·.2) := by
  -- The pairs are inserted in front to back, so the induction is from the back.
  rw [← pairs.reverse_reverse]
  induction pairs.reverse with
  | nil => rfl
  | cons p ps ih =>
    have hof : ofList (p :: ps).reverse = insert p.1 p.2 (ofList ps.reverse) := by
      simp [ofList]
    rw [hof, List.reverse_reverse]
    rw [List.reverse_reverse] at ih
    by_cases h : key = p.1
    · rw [h, find?_insert_self]
      simp
    · have hne : (p.1 == key) = false := beq_false_of_ne fun heq => h heq.symm
      rw [find?_insert_of_ne h, ih, List.find?_cons, hne]

theorem mem_of_find? {key : String} {v : α} {m : List (String × α)}
    (h : find? key m = some v) : (key, v) ∈ m := by
  induction m with
  | nil => cases h
  | cons p rest ih =>
    obtain ⟨k, w⟩ := p
    rw [find?] at h
    split at h
    · rename_i hk
      cases h
      rw [eq_of_beq hk]
      exact List.mem_cons_self
    · exact List.mem_cons_of_mem _ (ih h)

/-- A map with each key once holds under a key what the only pair with it has. -/
theorem find?_eq_some_iff {key : String} {v : α} {m : List (String × α)}
    (h : (m.map Prod.fst).Nodup) : find? key m = some v ↔ (key, v) ∈ m := by
  refine ⟨mem_of_find?, fun hmem => ?_⟩
  induction m with
  | nil => cases hmem
  | cons p rest ih =>
    obtain ⟨k, w⟩ := p
    rw [List.map_cons, List.nodup_cons] at h
    rw [find?]
    rcases List.mem_cons.1 hmem with hhead | htail
    · cases hhead
      rw [if_pos (beq_self_eq_true key)]
    · have hne : key ≠ k := by
        rintro rfl
        exact h.1 (List.mem_map.2 ⟨_, htail, rfl⟩)
      rw [if_neg (by rwa [beq_iff_eq]), ih h.2 htail]

theorem mem_of_mem_insert {key : String} {v : α} {p : String × α}
    {m : List (String × α)} (h : p ∈ insert key v m) : p = (key, v) ∨ p ∈ m := by
  induction m with
  | nil => exact .inl (List.mem_singleton.1 h)
  | cons q rest ih =>
    obtain ⟨k, w⟩ := q
    rw [insert] at h
    split at h
    · exact (List.mem_cons.1 h).imp id (List.mem_cons_of_mem _)
    · split at h
      · exact List.mem_cons.1 h
      · rcases List.mem_cons.1 h with rfl | h
        · exact .inr List.mem_cons_self
        · exact (ih h).imp id (List.mem_cons_of_mem _)

/-- A map has no other pairs than those it is made from. -/
theorem mem_of_mem_ofList {p : String × α} {pairs : List (String × α)}
    (h : p ∈ ofList pairs) : p ∈ pairs := by
  suffices ∀ m, p ∈ pairs.foldl (fun m p => insert p.1 p.2 m) m → p ∈ m ∨ p ∈ pairs from
    (this [] h).resolve_left List.not_mem_nil
  clear h
  induction pairs with
  | nil => exact fun m h => .inl h
  | cons q qs ih =>
    intro m h
    rcases ih _ h with h | h
    · rcases mem_of_mem_insert h with rfl | h
      · exact .inr List.mem_cons_self
      · exact .inl h
    · exact .inr (List.mem_cons_of_mem q h)

theorem isSome_find?_ofList {key : String} {pairs : List (String × α)} :
    (find? key (ofList pairs)).isSome = true ↔ key ∈ pairs.map Prod.fst := by
  simp [find?_ofList, List.mem_map]

end Keyed

/-! ## The order of the keys -/

theorem Text.precedes_irrefl (cs : List Char) : precedes cs cs = false := by
  induction cs with
  | nil => rfl
  | cons c cs ih => simp [precedes, ih]

theorem Text.precedes_trans {as bs cs : List Char} (h : precedes as bs = true)
    (h' : precedes bs cs = true) : precedes as cs = true := by
  induction as generalizing bs cs with
  | nil =>
    cases cs with
    | nil =>
      rw [precedes] at h'
      cases h'
    | cons c cs => rfl
  | cons a as ih =>
    cases bs with
    | nil => cases h
    | cons b bs =>
      cases cs with
      | nil => cases h'
      | cons c cs =>
        simp only [precedes, Bool.or_eq_true, Bool.and_eq_true, decide_eq_true_eq, beq_iff_eq]
          at h h' ⊢
        rcases h with h | ⟨rfl, h⟩
        · rcases h' with h' | ⟨rfl, -⟩
          · exact .inl (Nat.lt_trans h h')
          · exact .inl h
        · exact h'.imp id fun ⟨heq, h'⟩ => ⟨heq, ih h h'⟩

theorem Text.precedes_of_not {as bs : List Char} (hne : as ≠ bs) (h : ¬ precedes as bs = true) :
    precedes bs as = true := by
  induction as generalizing bs with
  | nil =>
    cases bs with
    | nil => exact absurd rfl hne
    | cons b bs => exact absurd rfl h
  | cons a as ih =>
    cases bs with
    | nil => rfl
    | cons b bs =>
      simp only [precedes, Bool.or_eq_true, Bool.and_eq_true, decide_eq_true_eq, beq_iff_eq]
        at h ⊢
      obtain ⟨hlt, heq⟩ := not_or.1 h
      by_cases hab : a = b
      · subst hab
        have hne' : as ≠ bs := fun has => hne (has ▸ rfl)
        exact .inr ⟨rfl, ih hne' fun has => heq ⟨rfl, has⟩⟩
      · have hcode : a.toNat ≠ b.toNat := fun hcode => hab (Char.toNat_inj.1 hcode)
        exact .inl (by omega)

namespace Keyed

variable {α : Type} {m : List (String × α)}

/-- The keys of a map stand in their order, and thus are all different. -/
def IsAscending (m : List (String × α)) : Prop :=
  m.Pairwise fun p q => Text.precedes p.1.toList q.1.toList = true

theorem IsAscending.nodup_keys (h : IsAscending m) : (m.map Prod.fst).Nodup := by
  rw [List.Nodup, List.pairwise_map]
  refine h.imp fun {p q} hpq heq => ?_
  rw [heq, Text.precedes_irrefl] at hpq
  cases hpq

theorem IsAscending.insert (h : IsAscending m) (key : String) (value : α) :
    IsAscending (insert key value m) := by
  induction m with
  | nil => exact List.pairwise_singleton _ _
  | cons p rest ih =>
    obtain ⟨k, v⟩ := p
    obtain ⟨hfirst, hrest⟩ := List.pairwise_cons.1 h
    rw [Keyed.insert]
    split
    · rename_i hkey
      rw [beq_iff_eq] at hkey
      subst hkey
      exact List.pairwise_cons.2 ⟨hfirst, hrest⟩
    · rename_i hkey
      split
      · rename_i hless
        refine List.pairwise_cons.2 ⟨fun q hq => ?_, h⟩
        rcases List.mem_cons.1 hq with rfl | hq
        · exact hless
        · exact Text.precedes_trans hless (hfirst q hq)
      · rename_i hless
        refine List.pairwise_cons.2 ⟨fun q hq => ?_, ih hrest⟩
        rcases mem_of_mem_insert hq with rfl | hq
        · have hne : key.toList ≠ k.toList := fun heq =>
            hkey (beq_iff_eq.2 (String.toList_injective heq))
          exact Text.precedes_of_not hne hless
        · exact hfirst q hq

theorem isAscending_ofList (pairs : List (String × α)) : IsAscending (ofList pairs) := by
  suffices ∀ m : List (String × α), IsAscending m →
      IsAscending (pairs.foldl (fun m p => insert p.1 p.2 m) m) from this [] List.Pairwise.nil
  induction pairs with
  | nil => exact fun m h => h
  | cons p pairs ih => exact fun m h => ih _ (h.insert p.1 p.2)

theorem nodup_keys_ofList (pairs : List (String × α)) : ((ofList pairs).map Prod.fst).Nodup :=
  (isAscending_ofList pairs).nodup_keys

/-- A pair whose key is behind all others is inserted at the end. -/
theorem insert_of_forall_precedes {key : String} {value : α}
    (h : ∀ p ∈ m, Text.precedes p.1.toList key.toList = true) :
    insert key value m = m ++ [(key, value)] := by
  induction m with
  | nil => rfl
  | cons p rest ih =>
    obtain ⟨k, v⟩ := p
    obtain ⟨hk, hrest⟩ := List.forall_mem_cons.1 h
    have hne : (key == k) = false := by
      rw [beq_eq_false_iff_ne]
      rintro rfl
      rw [Text.precedes_irrefl] at hk
      cases hk
    have hbefore : ¬ Text.precedes key.toList k.toList = true := fun hless => by
      have hself := Text.precedes_trans hk hless
      rw [Text.precedes_irrefl] at hself
      cases hself
    rw [insert, hne, if_neg hbefore, ih hrest]
    rfl

/-- A map is the map with its own pairs. -/
theorem ofList_of_isAscending (h : IsAscending m) : ofList m = m := by
  suffices ∀ front : List (String × α), IsAscending (front ++ m) →
      m.foldl (fun m p => insert p.1 p.2 m) front = front ++ m from this [] h
  clear h
  induction m with
  | nil => exact fun front _ => (List.append_nil front).symm
  | cons p m ih =>
    intro front h
    obtain ⟨-, -, hfront⟩ := List.pairwise_append.1 h
    have hlast : insert p.1 p.2 front = front ++ [p] :=
      insert_of_forall_precedes fun q hq => hfront q hq p List.mem_cons_self
    rw [List.foldl_cons, hlast, ih, List.append_assoc, List.singleton_append]
    rwa [List.append_assoc, List.singleton_append]

end Keyed

@[simp] theorem Json.field?_ofFields (key : String) (fields : List (String × Json)) :
    (Json.ofFields fields).field? key = (fields.reverse.find? (·.1 == key)).map (·.2) :=
  Keyed.find?_ofList key fields

end Compliance
