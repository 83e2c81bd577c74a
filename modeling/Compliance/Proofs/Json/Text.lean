import Compliance.Json.Printing
import Compliance.Proofs.Json.Number
import Compliance.Proofs.Json.Order
import Mathlib.Tactic.SplitIfs

/-!
# Compliance.Proofs.Json.Text

Documents without fractions are read back from their text.

* `Json.readText_escaped`       — quoted texts, whatever characters are in them.
* `Json.readDocument_intDigits` — integers.
* `Json.readDocument_compact`   — documents, as deep as the reader goes.
* `Json.ofText?_compact`        — a whole text is the document with its fields in order, unless it
  nests too deep.
-/

namespace Compliance.Json

open Text

/-! ## Reading up to a depth -/

/-- A reader succeeds just in case something does not nest too deep, and otherwise complains. -/
def EndsIn {α : Type} (x : Except Failure α) (fits : Prop) (a : α) : Prop :=
  (fits → x = .ok a) ∧ (¬ fits → ∃ e, x = .error e ∧ e.fault = .tooDeep)

namespace EndsIn

variable {α β : Type} {x : Except Failure α} {p q : Prop} {a : α} {b : β}

theorem of_eq_ok (h : x = .ok a) (hp : p) : EndsIn x p a := ⟨fun _ => h, fun hn => absurd hp hn⟩

theorem of_iff (h : EndsIn x p a) (hiff : q ↔ p) : EndsIn x q a :=
  ⟨fun hq => h.1 (hiff.1 hq), fun hq => h.2 (mt hiff.2 hq)⟩

theorem map (f : α → β) (h : EndsIn x p a) : EndsIn (x.map f) p (f a) := by
  refine ⟨fun hp => ?_, fun hp => ?_⟩
  · rw [h.1 hp]
    rfl
  · obtain ⟨e, he, hfault⟩ := h.2 hp
    rw [he]
    exact ⟨e, rfl, hfault⟩

theorem bind {f : α → Except Failure β} (h : EndsIn x p a) (h' : EndsIn (f a) q b) :
    EndsIn (x >>= f) (p ∧ q) b := by
  refine ⟨fun hpq => ?_, fun hpq => ?_⟩
  · rw [h.1 hpq.1]
    exact h'.1 hpq.2
  · by_cases hp : p
    · rw [h.1 hp]
      exact h'.2 fun hq => hpq ⟨hp, hq⟩
    · obtain ⟨e, he, hfault⟩ := h.2 hp
      rw [he]
      exact ⟨e, rfl, hfault⟩

end EndsIn

/-! ## Quoted texts -/

theorem hexDigit?_hexDigit {n : Nat} (h : n < 16) : hexDigit? (hexDigit n) = some n := by
  revert n
  decide

theorem utf8Size_hexDigit {n : Nat} (h : n < 16) : (hexDigit n).utf8Size = 1 := by
  revert n
  decide

theorem fourHex_control {n : Nat} (h : n < 32) (cs : List Char) :
    fourHex ('0' :: '0' :: hexDigit (n / 16) :: hexDigit n :: cs) = .ok n := by
  have hhigh := hexDigit?_hexDigit (show n / 16 < 16 by omega)
  have hmod : hexDigit n = hexDigit (n % 16) := by simp [hexDigit]
  have hlow := hexDigit?_hexDigit (show n % 16 < 16 by omega)
  have hsize := utf8Size_hexDigit (show n / 16 < 16 by omega)
  have hsize' := utf8Size_hexDigit (show n % 16 < 16 by omega)
  have hzero : hexDigit? '0' = some 0 := rfl
  have hzero' : '0'.utf8Size = 1 := rfl
  rw [hmod]
  simp [fourHex, byteSize, hhigh, hlow, hsize, hsize', hzero, hzero']
  omega

theorem readEscape_control {n : Nat} (h : n < 32) (cs : List Char) :
    readEscape ('u' :: '0' :: '0' :: hexDigit (n / 16) :: hexDigit n :: cs) =
      .ok (Char.ofNat n, 5) := by
  have hlow : isLowSurrogate n = false := by
    simp only [isLowSurrogate, Bool.and_eq_false_iff, decide_eq_false_iff_not]
    omega
  have hhigh : isHighSurrogate n = false := by
    simp only [isHighSurrogate, Bool.and_eq_false_iff, decide_eq_false_iff_not]
    omega
  rw [readEscape, fourHex_control h]
  simp [Bind.bind, Except.bind, hlow, hhigh]

theorem readText_escape {cs rest : List Char} {c : Char} {n : Nat}
    (h : readEscape cs = .ok (c, n)) (hrest : cs.drop n = rest) :
    readText ('\\' :: cs) = (readText rest).map fun p => (c :: p.1, p.2) := by
  rw [readText]
  simp [h, hrest]

/-- One character, in the form that it has between quotes. -/
theorem readText_escaped_append (c : Char) (cs : List Char) :
    readText (escaped c ++ cs) = (readText cs).map fun p => (c :: p.1, p.2) := by
  have hcode : ∀ n, (c.toNat == n) = true → Char.ofNat n = c := fun n hn => by
    rw [← beq_iff_eq.1 hn, Char.ofNat_toNat]
  rw [escaped]
  split_ifs with hquote hbackslash hfeed hreturn htab hback hform hcontrol
  · rw [beq_iff_eq.1 hquote]
    exact readText_escape rfl rfl
  · rw [beq_iff_eq.1 hbackslash]
    exact readText_escape rfl rfl
  · rw [beq_iff_eq.1 hfeed]
    exact readText_escape rfl rfl
  · rw [beq_iff_eq.1 hreturn]
    exact readText_escape rfl rfl
  · rw [beq_iff_eq.1 htab]
    exact readText_escape rfl rfl
  · rw [← hcode 8 hback]
    exact readText_escape rfl rfl
  · rw [← hcode 12 hform]
    exact readText_escape rfl rfl
  · have hread := readText_escape (readEscape_control hcontrol cs) rfl
    rwa [Char.ofNat_toNat] at hread
  · rw [List.singleton_append, readText]
    simp [hquote, hbackslash, hcontrol]

theorem readText_escaped (cs rest : List Char) :
    readText (cs.flatMap escaped ++ '"' :: rest) = .ok (cs, rest) := by
  induction cs with
  | nil => simp [readText]
  | cons c cs ih =>
    rw [List.flatMap_cons, List.append_assoc, readText_escaped_append, ih]
    rfl

/-! ## Integers -/

/-- What may stand behind a document inside another one, or nothing. -/
def Closes (rest : List Char) : Prop := ∀ c cs, rest = c :: cs → c = ',' ∨ c = ']' ∨ c = '}'

variable {rest : List Char}

theorem Closes.nil : Closes [] := nofun

theorem Closes.cons {c : Char} (h : c = ',' ∨ c = ']' ∨ c = '}') (cs : List Char) :
    Closes (c :: cs) := by
  rintro _ _ ⟨⟩
  exact h

theorem Closes.isDigit (h : Closes rest) : ∀ c cs, rest = c :: cs → c.isDigit = false := by
  intro c cs heq
  rcases h c cs heq with rfl | rfl | rfl <;> rfl

/-- Behind a document no number goes on. -/
theorem readNumber_digits (negative : Bool) (n : Nat) (h : Closes rest) :
    readNumber negative (digits n ++ rest) = wholeNumber negative (digits n) rest := by
  rw [readNumber_append negative (fun _ hc => isDigit_of_mem_digits hc) (digits_ne_nil n)
    digits_of_head?_zero h.isDigit, readFraction_of_ne]
  intro c cs heq
  rcases h c cs heq with rfl | rfl | rfl <;> decide

theorem skipLayout_cons {c : Char} (h : isLayout c = false) (cs : List Char) :
    skipLayout (c :: cs) = c :: cs := by
  rw [skipLayout, List.dropWhile_cons, h]
  rfl

theorem ne_of_isDigit {c e : Char} (hc : c.isDigit = true) (he : e.isDigit = false) : c ≠ e := by
  rintro rfl
  rw [hc] at he
  cases he

theorem isLayout_of_isDigit {c : Char} (hc : c.isDigit = true) : isLayout c = false := by
  have hne := fun e => ne_of_isDigit hc (e := e)
  simp [isLayout, hne]

theorem readDocument_of_isDigit (depth : Nat) {c : Char} (hc : c.isDigit = true) (cs : List Char) :
    readDocument depth (c :: cs) = readNumber false (c :: cs) := by
  rw [readDocument.eq_def, skipLayout_cons (isLayout_of_isDigit hc)]
  split <;> rename_i heq
  all_goals
    cases heq
  · cases hc
  · cases hc
  · cases hc
  · cases hc
  · cases hc
  · rw [if_pos hc]

theorem readDocument_intDigits {z : Int} (hlow : -9223372036854775808 ≤ z)
    (hhigh : z < 18446744073709551616) (depth : Nat) (h : Closes rest) :
    readDocument depth (intDigits z ++ rest) = .ok (.number (.int z), rest) := by
  cases z with
  | ofNat n =>
    obtain ⟨c, cs, hcs, hc⟩ := digits_eq_cons n
    have hread := readNumber_digits false n h
    have hfits : fitsNat64 n = true := fitsNat64_iff.2 (Int.ofNat_lt.1 hhigh)
    rw [intDigits, hcs, List.cons_append, readDocument_of_isDigit depth hc]
    rw [hcs, List.cons_append] at hread
    rw [hread, ← hcs, wholeNumber, natOfDigits_digits, hfits]
    rfl
  | negSucc n =>
    have hread := readNumber_digits true (n + 1) h
    have hfits : fitsInt64 (-((n + 1 : Nat) : Int)) = true := by
      simp only [fitsInt64, Bool.and_eq_true, decide_eq_true_eq]
      omega
    rw [intDigits, List.cons_append, readDocument.eq_def, skipLayout_cons rfl]
    simp only
    rw [hread, wholeNumber, natOfDigits_digits, hfits]
    rfl

/-! ## Documents -/

/-- The document is read back from its text wherever it may nest as deep as it does. -/
def ReadsBack (d : Json) : Prop :=
  ∀ (depth : Nat) (rest : List Char), Closes rest →
    EndsIn (readDocument depth (d.compact.toList ++ rest)) (d.depth ≤ depth) (d.sorted, rest)

theorem quoted_toList (s : String) :
    (quoted s).toList = '"' :: (s.toList.flatMap escaped ++ ['"']) := by
  simp [quoted]

theorem compact_list (items : List Json) :
    (list items).compact.toList = '[' :: ((compactItems items).toList ++ [']']) := by
  rw [compact]
  simp

theorem compact_record (fields : List (String × Json)) :
    (record fields).compact.toList = '{' :: ((compactFields fields).toList ++ ['}']) := by
  rw [compact]
  simp

/-- The text of further items, each behind its comma. -/
def moreItems (items : List Json) : List Char := items.flatMap fun j => ',' :: j.compact.toList

theorem compactItems_cons (j : Json) (items : List Json) :
    (compactItems (j :: items)).toList = j.compact.toList ++ moreItems items := by
  induction items generalizing j with
  | nil => simp [compactItems, moreItems]
  | cons j' items ih =>
    rw [compactItems, String.toList_append, String.toList_append, ih]
    · simp [moreItems]
    · exact fun h => nomatch h

/-- The text of a field. -/
def fieldText (p : String × Json) : List Char := (quoted p.1).toList ++ ':' :: p.2.compact.toList

/-- The text of further fields, each behind its comma. -/
def moreFields (fields : List (String × Json)) : List Char :=
  fields.flatMap fun p => ',' :: fieldText p

theorem compactFields_cons (p : String × Json) (fields : List (String × Json)) :
    (compactFields (p :: fields)).toList = fieldText p ++ moreFields fields := by
  induction fields generalizing p with
  | nil =>
    obtain ⟨key, j⟩ := p
    simp [compactFields, moreFields, fieldText]
  | cons q fields ih =>
    obtain ⟨key, j⟩ := p
    simp only [compactFields, String.toList_append, ih]
    simp [moreFields, fieldText]

/-- The text of a document begins neither with layout nor with the end of a list. -/
theorem compact_head {d : Json} (h : d.IsWhole) :
    ∃ c cs, d.compact.toList = c :: cs ∧ isLayout c = false ∧ c ≠ ']' := by
  cases h with
  | null => exact ⟨_, _, rfl, rfl, by decide⟩
  | bool b => cases b <;> exact ⟨_, _, rfl, rfl, by decide⟩
  | @int z =>
    rw [compact, Number.text, String.toList_ofList]
    cases z with
    | ofNat n =>
      obtain ⟨c, cs, hcs, hc⟩ := digits_eq_cons n
      exact ⟨c, cs, hcs, isLayout_of_isDigit hc, ne_of_isDigit hc rfl⟩
    | negSucc n => exact ⟨_, _, rfl, rfl, by decide⟩
  | text s => exact ⟨_, _, quoted_toList s, rfl, by decide⟩
  | list => exact ⟨_, _, compact_list _, rfl, by decide⟩
  | record => exact ⟨_, _, compact_record _, rfl, by decide⟩

/-! ## Lists and records -/

section Readers

variable {item : List Char → Except Failure (Json × List Char)} {fuel : Nat} {c : Char}
  {cs : List Char}

/-- One item, and those behind it. -/
def readItem (item : List Char → Except Failure (Json × List Char)) (fuel : Nat)
    (cs : List Char) : Except Failure (List Json × List Char) :=
  item cs >>= fun p => readItems item false fuel p.2 >>= fun q => .ok (p.1 :: q.1, q.2)

theorem readItems_first (hc : isLayout c = false) (hend : c ≠ ']') :
    readItems item true (fuel + 1) (c :: cs) = readItem item fuel (c :: cs) := by
  rw [readItems, skipLayout_cons hc]
  split
  · rename_i heq
    cases heq
  · rename_i heq
    cases heq
    exact absurd rfl hend
  · rename_i heq
    cases heq
    rfl

theorem readItems_comma (hc : isLayout c = false) (hend : c ≠ ']') :
    readItems item false (fuel + 1) (',' :: c :: cs) = readItem item fuel (c :: cs) := by
  rw [readItems, skipLayout_cons rfl]
  split <;> rename_i heq <;> cases heq
  simp only [Bool.false_eq_true, ↓reduceIte, beq_self_eq_true, skipLayout_cons hc]
  split
  · rename_i heq
    cases heq
  · rename_i heq
    cases heq
    exact absurd rfl hend
  · rfl

/-- One field, and those behind it. -/
def readFieldThen (item : List Char → Except Failure (Json × List Char)) (fuel : Nat)
    (cs : List Char) : Except Failure (List (String × Json) × List Char) :=
  readField item cs >>= fun p => readFields item false fuel p.2 >>= fun q =>
    .ok (p.1 :: q.1, q.2)

theorem readFields_first :
    readFields item true (fuel + 1) ('"' :: cs) = readFieldThen item fuel ('"' :: cs) := by
  rw [readFields, skipLayout_cons rfl]
  rfl

theorem readFields_comma :
    readFields item false (fuel + 1) (',' :: '"' :: cs) =
      readFieldThen item fuel ('"' :: cs) := by
  rw [readFields, skipLayout_cons rfl]
  split <;> rename_i heq <;> cases heq
  simp only [Bool.false_eq_true, ↓reduceIte, beq_self_eq_true,
    skipLayout_cons (show isLayout '"' = false from rfl)]
  rfl

end Readers

variable {fuel : Nat} (depth : Nat) (rest : List Char)

theorem closes_moreItems (items : List Json) : Closes (moreItems items ++ ']' :: rest) := by
  cases items with
  | nil => exact .cons (.inr (.inl rfl)) rest
  | cons j items => exact .cons (.inl rfl) _

theorem readItem_moreItems {j : Json} {items : List Json} (hj : j.ReadsBack)
    (h : EndsIn (readItems (readDocument depth) false fuel (moreItems items ++ ']' :: rest))
      (listDepth items ≤ depth) (sortedItems items, rest)) :
    EndsIn (readItem (readDocument depth) fuel
        (j.compact.toList ++ (moreItems items ++ ']' :: rest)))
      (listDepth (j :: items) ≤ depth) (sortedItems (j :: items), rest) := by
  have hitem := hj depth _ (closes_moreItems rest items)
  exact (hitem.bind (h.map fun q => (j.sorted :: q.1, q.2))).of_iff Nat.max_le

theorem readItems_moreItems {items : List Json} (hwhole : ∀ j ∈ items, j.IsWhole)
    (hitems : ∀ j ∈ items, j.ReadsBack) (hfuel : items.length < fuel) :
    EndsIn (readItems (readDocument depth) false fuel (moreItems items ++ ']' :: rest))
      (listDepth items ≤ depth) (sortedItems items, rest) := by
  induction items generalizing fuel with
  | nil =>
    obtain ⟨fuel, rfl⟩ := Nat.exists_eq_add_of_lt hfuel
    exact .of_eq_ok rfl (Nat.zero_le _)
  | cons j items ih =>
    -- a comma, then an item, whose first character ends no list
    obtain ⟨hj, hrest⟩ := List.forall_mem_cons.1 hwhole
    obtain ⟨hread, hreads⟩ := List.forall_mem_cons.1 hitems
    obtain ⟨fuel, rfl⟩ := Nat.exists_eq_add_one_of_ne_zero (Nat.ne_of_gt (Nat.zero_lt_of_lt hfuel))
    obtain ⟨c, cs, hcs, hlayout, hend⟩ := compact_head hj
    have hmore := ih hrest hreads (Nat.lt_of_succ_lt_succ hfuel)
    have hnext := readItem_moreItems depth rest hread hmore
    rw [moreItems, List.flatMap_cons, List.append_assoc, List.cons_append]
    rw [hcs, List.cons_append] at hnext ⊢
    rw [readItems_comma hlayout hend]
    exact hnext

theorem closes_moreFields (fields : List (String × Json)) :
    Closes (moreFields fields ++ '}' :: rest) := by
  cases fields with
  | nil => exact .cons (.inr (.inr rfl)) rest
  | cons p fields => exact .cons (.inl rfl) _

theorem fieldText_append (p : String × Json) (rest : List Char) :
    fieldText p ++ rest =
      '"' :: (p.1.toList.flatMap escaped ++ '"' :: ':' :: (p.2.compact.toList ++ rest)) := by
  simp [fieldText, quoted_toList]

theorem readField_fieldText (item : List Char → Except Failure (Json × List Char))
    (p : String × Json) (rest : List Char) :
    readField item (fieldText p ++ rest) =
      (item (p.2.compact.toList ++ rest)).map fun q => ((p.1, q.1), q.2) := by
  rw [fieldText_append, readField, readText_escaped]
  simp only [Bind.bind, Except.bind, skipLayout_cons (show isLayout ':' = false from rfl),
    String.ofList_toList]
  cases item (p.2.compact.toList ++ rest) <;> rfl

theorem readFieldThen_moreFields {p : String × Json} {fields : List (String × Json)}
    (hp : p.2.ReadsBack)
    (h : EndsIn (readFields (readDocument depth) false fuel (moreFields fields ++ '}' :: rest))
      (fieldsDepth fields ≤ depth) (sortedFields fields, rest)) :
    EndsIn (readFieldThen (readDocument depth) fuel
        (fieldText p ++ (moreFields fields ++ '}' :: rest)))
      (fieldsDepth (p :: fields) ≤ depth) (sortedFields (p :: fields), rest) := by
  have hitem := hp depth _ (closes_moreFields rest fields)
  have hfield := hitem.map fun q => ((p.1, q.1), q.2)
  rw [← readField_fieldText] at hfield
  exact (hfield.bind (h.map fun q => ((p.1, p.2.sorted) :: q.1, q.2))).of_iff Nat.max_le

theorem readFields_moreFields {fields : List (String × Json)}
    (hfields : ∀ p ∈ fields, p.2.ReadsBack) (hfuel : fields.length < fuel) :
    EndsIn (readFields (readDocument depth) false fuel (moreFields fields ++ '}' :: rest))
      (fieldsDepth fields ≤ depth) (sortedFields fields, rest) := by
  induction fields generalizing fuel with
  | nil =>
    obtain ⟨fuel, rfl⟩ := Nat.exists_eq_add_of_lt hfuel
    exact .of_eq_ok rfl (Nat.zero_le _)
  | cons p fields ih =>
    obtain ⟨hread, hreads⟩ := List.forall_mem_cons.1 hfields
    obtain ⟨fuel, rfl⟩ := Nat.exists_eq_add_one_of_ne_zero (Nat.ne_of_gt (Nat.zero_lt_of_lt hfuel))
    have hmore := ih hreads (Nat.lt_of_succ_lt_succ hfuel)
    have hnext := readFieldThen_moreFields depth rest hread hmore
    rw [moreFields, List.flatMap_cons, List.append_assoc, List.cons_append]
    rw [fieldText_append] at hnext ⊢
    rw [readFields_comma]
    exact hnext

/-- The number of items is bounded by the length of their text. -/
theorem length_le_moreItems (items : List Json) : items.length ≤ (moreItems items).length := by
  induction items with
  | nil => exact Nat.le_refl _
  | cons j items ih =>
    simp only [moreItems, List.flatMap_cons, List.length_append, List.length_cons] at ih ⊢
    omega

theorem length_le_moreFields (fields : List (String × Json)) :
    fields.length ≤ (moreFields fields).length := by
  induction fields with
  | nil => exact Nat.le_refl _
  | cons p fields ih =>
    simp only [moreFields, List.flatMap_cons, List.length_append, List.length_cons] at ih ⊢
    omega

theorem readItems_compactItems {items : List Json} (hwhole : ∀ j ∈ items, j.IsWhole)
    (hitems : ∀ j ∈ items, j.ReadsBack)
    (hfuel : ((compactItems items).toList ++ ']' :: rest).length < fuel) :
    EndsIn (readItems (readDocument depth) true fuel ((compactItems items).toList ++ ']' :: rest))
      (listDepth items ≤ depth) (sortedItems items, rest) := by
  obtain ⟨fuel, rfl⟩ := Nat.exists_eq_add_one_of_ne_zero (Nat.ne_of_gt (Nat.zero_lt_of_lt hfuel))
  cases items with
  | nil => exact .of_eq_ok rfl (Nat.zero_le _)
  | cons j items =>
    obtain ⟨hj, hrest⟩ := List.forall_mem_cons.1 hwhole
    obtain ⟨hread, hreads⟩ := List.forall_mem_cons.1 hitems
    obtain ⟨c, cs, hcs, hlayout, hend⟩ := compact_head hj
    have hlength := length_le_moreItems items
    rw [compactItems_cons, List.append_assoc] at hfuel ⊢
    simp only [List.length_append, List.length_cons] at hfuel
    have hnext := readItem_moreItems depth rest hread
      (readItems_moreItems depth rest hrest hreads (by omega : items.length < fuel))
    rw [hcs, List.cons_append] at hnext ⊢
    rw [readItems_first hlayout hend]
    exact hnext

theorem readFields_compactFields {fields : List (String × Json)}
    (hfields : ∀ p ∈ fields, p.2.ReadsBack)
    (hfuel : ((compactFields fields).toList ++ '}' :: rest).length < fuel) :
    EndsIn (readFields (readDocument depth) true fuel
        ((compactFields fields).toList ++ '}' :: rest))
      (fieldsDepth fields ≤ depth) (sortedFields fields, rest) := by
  obtain ⟨fuel, rfl⟩ := Nat.exists_eq_add_one_of_ne_zero (Nat.ne_of_gt (Nat.zero_lt_of_lt hfuel))
  cases fields with
  | nil => exact .of_eq_ok rfl (Nat.zero_le _)
  | cons p fields =>
    obtain ⟨hread, hreads⟩ := List.forall_mem_cons.1 hfields
    have hlength := length_le_moreFields fields
    rw [compactFields_cons, List.append_assoc] at hfuel ⊢
    simp only [List.length_append, List.length_cons] at hfuel
    have hnext := readFieldThen_moreFields depth rest hread
      (readFields_moreFields depth rest hreads (by omega : fields.length < fuel))
    rw [fieldText_append] at hnext ⊢
    rw [readFields_first]
    exact hnext

theorem readDocument_list (depth : Nat) (cs : List Char) :
    readDocument (depth + 1) ('[' :: cs) =
      (readItems (readDocument depth) true (cs.length + 1) cs).map fun p => (.list p.1, p.2) := by
  rw [readDocument.eq_def, skipLayout_cons rfl]
  rfl

theorem readDocument_record (depth : Nat) (cs : List Char) :
    readDocument (depth + 1) ('{' :: cs) =
      (readFields (readDocument depth) true (cs.length + 1) cs).map fun p =>
        (ofFields p.1, p.2) := by
  rw [readDocument.eq_def, skipLayout_cons rfl]
  rfl

theorem readDocument_zero {c : Char} (hc : c = '[' ∨ c = '{') (cs : List Char) :
    ∃ e, readDocument 0 (c :: cs) = .error e ∧ e.fault = .tooDeep := by
  rcases hc with rfl | rfl <;>
  · rw [readDocument.eq_def, skipLayout_cons rfl]
    exact ⟨_, rfl, rfl⟩

/-- A document without fractions is read back from its text, with its fields in order, up to any
depth that it does not exceed. -/
theorem readDocument_compact {d : Json} (h : d.IsWhole) : d.ReadsBack := by
  induction h with
  | null => exact fun depth rest _ => .of_eq_ok (by rw [readDocument.eq_def]; rfl) (Nat.zero_le _)
  | bool b =>
    refine fun depth rest _ => .of_eq_ok ?_ (Nat.zero_le _)
    cases b <;> (rw [readDocument.eq_def]; rfl)
  | int hlow hhigh =>
    refine fun depth rest hrest => .of_eq_ok ?_ (Nat.zero_le _)
    rw [compact, Number.text, String.toList_ofList, readDocument_intDigits hlow hhigh depth hrest]
    rfl
  | text s =>
    refine fun depth rest _ => .of_eq_ok ?_ (Nat.zero_le _)
    rw [compact, quoted_toList, List.cons_append, List.append_assoc, readDocument.eq_def,
      skipLayout_cons rfl]
    simp only [List.singleton_append, readText_escaped, Except.map, String.ofList_toList]
    rfl
  | @list items hwhole ih =>
    intro depth rest _
    rw [compact_list, List.cons_append, List.append_assoc, List.singleton_append]
    cases depth with
    | zero =>
      exact ⟨fun hle => absurd hle (Nat.not_succ_le_zero _),
        fun _ => readDocument_zero (.inl rfl) _⟩
    | succ depth =>
      -- the items may nest one level less
      have hitems := readItems_compactItems depth rest hwhole ih (Nat.lt_succ_self _)
      rw [readDocument_list]
      exact (hitems.map fun p => (Json.list p.1, p.2)).of_iff Nat.succ_le_succ_iff
  | @record fields _ ih =>
    intro depth rest _
    rw [compact_record, List.cons_append, List.append_assoc, List.singleton_append]
    cases depth with
    | zero =>
      exact ⟨fun hle => absurd hle (Nat.not_succ_le_zero _),
        fun _ => readDocument_zero (.inr rfl) _⟩
    | succ depth =>
      have hfields := readFields_compactFields depth rest ih (Nat.lt_succ_self _)
      rw [readDocument_record]
      exact (hfields.map fun p => (Json.ofFields p.1, p.2)).of_iff Nat.succ_le_succ_iff

/-- A whole text is read as the document, with its fields in order, unless that nests too deep. -/
theorem ofText?_compact {d : Json} (h : d.IsWhole) :
    (d.depth ≤ maxDepth → ofText? d.compact = .ok d.sorted) ∧
      (maxDepth < d.depth → ∃ e, ofText? d.compact = .error e ∧ e.fault = .tooDeep) := by
  have hread := readDocument_compact h maxDepth [] .nil
  rw [List.append_nil] at hread
  constructor
  · intro hle
    rw [ofText?, readWhole, hread.1 hle]
    rfl
  · intro hlt
    obtain ⟨e, he, hfault⟩ := hread.2 (Nat.not_le.2 hlt)
    refine ⟨e.locate d.compact.toList, ?_, hfault⟩
    rw [ofText?, readWhole, he]
    rfl

end Compliance.Json
