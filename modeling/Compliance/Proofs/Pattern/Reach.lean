import Compliance.Pattern
import Mathlib.Data.List.Basic

/-!
# Compliance.Proofs.Pattern.Reach

The places that patterns lead to. A place of a text is told by what stands in front of it.

* `Marks.At`               — a place is marked.
* `Pattern.length_reach`   — as many places as before.
* `Pattern.reach_oneOf_at`, `reach_anyRun_at`, `reach_check_at`, `reach_sequence` — the places that
  characters, runs, conditions and sequences lead to.
* `Pattern.occursIn_iff`   — a pattern occurs if it leads anywhere.
-/

namespace Compliance

namespace Marks

/-- The place behind a part of the text is marked. -/
def At (marks : Marks) (before : List Char) : Prop := marks[before.length]? = some true

variable {marks : Marks} {before : List Char}

@[simp] theorem at_cons_nil {m : Bool} : At (m :: marks) [] ↔ m = true := by simp [At]

@[simp] theorem at_cons_cons {m : Bool} {c : Char} :
    At (m :: marks) (c :: before) ↔ At marks before := by simp [At]

theorem length_join {a b : Marks} (h : a.length = b.length) : (join a b).length = b.length := by
  simp [join, h]

theorem length_spread {chars : CharSet} {reached : Bool} {marks : Marks} {text : List Char} :
    (spread chars reached marks text).length = marks.length := by
  induction marks generalizing reached text with
  | nil => cases text <;> rfl
  | cons m rest ih => cases text <;> simp [spread, ih]

theorem length_settle {n : Nat} {step : Marks → Marks}
    (hstep : ∀ m : Marks, m.length = n → (step m).length = n) (rounds : Nat)
    (h : marks.length = n) : (settle step rounds marks).length = n := by
  induction rounds generalizing marks with
  | zero => exact h
  | succ rounds ih =>
    rw [settle]
    split
    · exact h
    · exact ih (hstep marks h)

end Marks

namespace Pattern

variable {text before after : List Char} {marks : Marks}

theorem length_sides (text : List Char) : (sides text).length = text.length + 1 := by
  simp [sides]

/-- A pattern leads to places of the same text. -/
theorem length_reach (p : Pattern) (h : marks.length = text.length + 1) :
    (p.reach text marks).length = text.length + 1 := by
  induction p generalizing marks with
  | empty => exact h
  | oneOf s => simp [reach, h]
  | check b => simp [reach, h, length_sides]
  | seq p q ihp ihq => exact ihq (ihp h)
  | alt p q ihp ihq => rw [reach, Marks.length_join ((ihp h).trans (ihq h).symm), ihq h]
  | times p least most ih =>
    have hjoin : ∀ m : Marks, m.length = text.length + 1 →
        (Marks.join m (p.reach text m)).length = text.length + 1 := fun m hm => by
      rw [Marks.length_join (hm.trans (ih hm).symm), ih hm]
    have hbegun := Marks.length_settle (fun m => ih) least h
    rw [reach.eq_def]
    simp only
    split
    · rw [Marks.length_spread]
      exact hbegun
    · exact Marks.length_settle hjoin _ hbegun
    · exact Marks.length_settle hjoin _ hbegun
  | group p ih => exact ih h

/-! ## The parts of a sequence -/

theorem reach_oneOf_at {s : CharSet} (htext : text = before ++ after) :
    ((oneOf s).reach text marks).At before ↔
      ∃ front c, before = front ++ [c] ∧ marks.At front ∧ s.contains c = true := by
  rcases List.eq_nil_or_concat' before with rfl | ⟨front, c, rfl⟩
  · simp [reach]
  · have hc : text[front.length]? = some c := by simp [htext]
    have hmark : ((oneOf s).reach text marks).At (front ++ [c]) ↔
        marks.At front ∧ s.contains c = true := by
      simp only [reach, Marks.At, List.length_append, List.length_singleton,
        List.getElem?_cons_succ, List.getElem?_zipWith, hc]
      cases marks[front.length]? <;> simp
    rw [hmark]
    constructor
    · rintro ⟨hfront, hcontains⟩
      exact ⟨front, c, rfl, hfront, hcontains⟩
    · rintro ⟨front', c', heq, hfront, hcontains⟩
      obtain ⟨rfl, hc'⟩ := List.append_inj' heq rfl
      cases hc'
      exact ⟨hfront, hcontains⟩

theorem sides_at (before after : List Char) :
    (sides (before ++ after))[before.length]? = some (before.getLast?, after.head?) := by
  have hbehind : ((before ++ after).map some ++ [none])[before.length]? = some after.head? := by
    cases after <;> simp
  have hfront : (none :: (before ++ after).map some)[before.length]? = some before.getLast? := by
    rcases List.eq_nil_or_concat' before with rfl | ⟨front, c, rfl⟩ <;> simp
  rw [sides, List.getElem?_zip_eq_some]
  exact ⟨hfront, hbehind⟩

theorem reach_check_at {b : Boundary} (htext : text = before ++ after) :
    ((check b).reach text marks).At before ↔
      marks.At before ∧ b.holds before.getLast? after.head? = true := by
  have hsides := sides_at before after
  rw [← htext] at hsides
  simp only [reach, Marks.At, List.getElem?_zipWith, hsides]
  cases marks[before.length]? <;> simp

theorem contains_full (c : Char) : CharSet.full.contains c = true := by
  have htop : c.toNat ≤ CharSet.top := by
    have := c.valid
    simp only [CharSet.top, Char.toNat]
    rcases this with h | h <;> omega
  simp [CharSet.full, CharSet.contains, CharSet.containsCode, htop]

/-- Runs of any characters lead to all places behind a marked one. -/
theorem spread_full_at {reached : Bool} (h : marks.length = text.length + 1)
    (htext : text = before ++ after) :
    (Marks.spread CharSet.full reached marks text).At before ↔
      reached = true ∨ ∃ front run, before = front ++ run ∧ marks.At front := by
  induction before generalizing reached marks text with
  | nil =>
    cases marks with
    | nil => simp at h
    | cons m rest =>
      have hspread : (Marks.spread CharSet.full reached (m :: rest) text).At [] ↔
          (m || reached) = true := by cases text <;> simp [Marks.spread]
      rw [hspread]
      simp [or_comm]
  | cons c before ih =>
    cases marks with
    | nil => simp at h
    | cons m rest =>
      subst htext
      have hrest : rest.length = (before ++ after).length + 1 := by simpa using h
      rw [List.cons_append, Marks.spread, contains_full, Bool.and_true, Marks.at_cons_cons,
        ih hrest rfl]
      constructor
      · rintro (hm | ⟨front, run, rfl, hfront⟩)
        · rcases Bool.or_eq_true_iff.1 hm with hm | hm
          · exact .inr ⟨[], c :: before, rfl, Marks.at_cons_nil.2 hm⟩
          · exact .inl hm
        · exact .inr ⟨c :: front, run, rfl, Marks.at_cons_cons.2 hfront⟩
      · rintro (hm | ⟨front, run, heq, hfront⟩)
        · exact .inl (by simp [hm])
        · cases front with
          | nil => exact .inl (by simp [Marks.at_cons_nil.1 hfront])
          | cons d front =>
            obtain ⟨rfl, rfl⟩ := List.cons.inj heq
            exact .inr ⟨front, run, rfl, Marks.at_cons_cons.1 hfront⟩

theorem reach_anyRun_at (h : marks.length = text.length + 1) (htext : text = before ++ after) :
    ((times (oneOf CharSet.full) 0 none).reach text marks).At before ↔
      ∃ front run, before = front ++ run ∧ marks.At front := by
  have hspread : (times (oneOf CharSet.full) 0 none).reach text marks =
      Marks.spread CharSet.full false marks text := rfl
  rw [hspread, spread_full_at h htext]
  simp

theorem reach_sequence (ps : List Pattern) :
    (sequence ps).reach text marks = ps.foldl (fun m p => p.reach text m) marks := by
  induction ps generalizing marks with
  | nil => rfl
  | cons p ps ih =>
    cases ps with
    | nil => rfl
    | cons q ps => exact ih

theorem occursIn_iff {p : Pattern} :
    p.occursIn text = true ↔ ∃ before after, text = before ++ after ∧
      (p.reach text (List.replicate (text.length + 1) true)).At before := by
  have hlength : (p.reach text (List.replicate (text.length + 1) true)).length = text.length + 1 :=
    length_reach p List.length_replicate
  rw [occursIn, List.any_eq_true]
  constructor
  · rintro ⟨m, hm, rfl⟩
    obtain ⟨i, hi, hget⟩ := List.getElem_of_mem hm
    refine ⟨text.take i, text.drop i, (List.take_append_drop i text).symm, ?_⟩
    have htake : (text.take i).length = i := by rw [List.length_take]; omega
    rw [Marks.At, htake]
    exact List.getElem?_eq_some_iff.2 ⟨hi, hget⟩
  · rintro ⟨before, after, -, hat⟩
    exact ⟨true, List.mem_of_getElem? hat, rfl⟩

end Pattern

end Compliance
