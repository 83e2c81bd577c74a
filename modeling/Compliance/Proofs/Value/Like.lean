import Compliance.Proofs.Pattern.Reach
import Compliance.Proofs.Value.Wildcards
import Mathlib.Data.List.Infix

/-!
# Compliance.Proofs.Value.Like

Patterns with wildcards match what they describe.

* `Value.Admits`, `Value.IsLike`        — the texts that a character of a pattern, and a pattern, describe.
* `Value.isLike`                        — the same, decided from the left to the right.
* `Value.occursIn_wildcardPattern`      — the pattern that is run occurs in just these texts.
* `Value.isTooBig_wildcardPattern`      — it is not too big for patterns of ten thousand characters.
* `Value.like_eq`                       — the test gives what the pattern describes.
-/

namespace Compliance

namespace Value

/-! ## What patterns describe -/

/-- The texts that one character of a pattern stands for: `%` for any run of characters, `_` for any
one character, all others for themselves. -/
inductive Admits : Char → List Char → Prop where
  | run (cs : List Char) : Admits '%' cs
  | one (c : Char) : Admits '_' [c]
  | same {c : Char} (hrun : c ≠ '%') (hone : c ≠ '_') : Admits c [c]

/-- The texts that a pattern describes: one part for each of its characters, and nothing else. -/
inductive IsLike : List Char → List Char → Prop where
  | nil : IsLike [] []
  | cons {c : Char} {run ps rest : List Char} (hrun : Admits c run) (h : IsLike ps rest) :
      IsLike (c :: ps) (run ++ rest)

/-- Does a pattern describe a text? What `%` stands for may end anywhere. -/
def isLike : List Char → List Char → Bool
  | [], cs => cs.isEmpty
  | '%' :: ps, cs => cs.tails.any fun rest => isLike ps rest
  | _ :: _, [] => false
  | c :: ps, d :: rest => (c == '_' || c == d) && isLike ps rest

variable {c : Char} {ps text run rest before after : List Char}

theorem admits_of_ne (hrun : c ≠ '%') :
    Admits c run ↔ ∃ d, run = [d] ∧ (c == '_' || c == d) = true := by
  constructor
  · intro h
    cases h with
    | run => exact absurd rfl hrun
    | one d => exact ⟨d, rfl, rfl⟩
    | same => exact ⟨c, rfl, by simp⟩
  · rintro ⟨d, rfl, h⟩
    by_cases hone : c = '_'
    · rw [hone]
      exact .one d
    · obtain rfl : c = d := by simpa [hone] using h
      exact .same hrun hone

theorem isLike_cons_iff :
    IsLike (c :: ps) text ↔ ∃ run rest, text = run ++ rest ∧ Admits c run ∧ IsLike ps rest := by
  constructor
  · intro h
    cases h with
    | cons hrun h => exact ⟨_, _, rfl, hrun, h⟩
  · rintro ⟨run, rest, rfl, hrun, h⟩
    exact .cons hrun h

theorem isLike_iff : isLike ps text = true ↔ IsLike ps text := by
  induction ps generalizing text with
  | nil =>
    rw [isLike, List.isEmpty_iff]
    constructor
    · rintro rfl
      exact .nil
    · rintro ⟨⟩
      rfl
  | cons c ps ih =>
    rw [isLike_cons_iff]
    by_cases hrun : c = '%'
    · subst hrun
      simp only [isLike, List.any_eq_true, List.mem_tails, ih]
      constructor
      · rintro ⟨rest, ⟨run, rfl⟩, h⟩
        exact ⟨run, rest, rfl, .run run, h⟩
      · rintro ⟨run, rest, rfl, -, h⟩
        exact ⟨rest, ⟨run, rfl⟩, h⟩
    · simp only [admits_of_ne hrun]
      cases text with
      | nil =>
        rw [isLike]
        · refine iff_of_false nofun ?_
          rintro ⟨_, rest, heq, ⟨d, rfl, -⟩, -⟩
          cases heq
        · exact hrun
      | cons d text =>
        rw [isLike]
        · rw [Bool.and_eq_true, ih]
          constructor
          · rintro ⟨hd, h⟩
            exact ⟨[d], text, rfl, ⟨d, rfl, hd⟩, h⟩
          · rintro ⟨_, rest, heq, ⟨e, rfl, he⟩, h⟩
            cases heq
            exact ⟨he, h⟩
        · exact hrun

/-! ## What the pattern leads to -/

open Compliance.Pattern

variable {marks : Marks}

theorem contains_single (c d : Char) : (CharSet.single c).contains d = true ↔ c = d := by
  have hcode : (CharSet.single c).contains d = true ↔ c.toNat = d.toNat := by
    simp [CharSet.single, CharSet.range, CharSet.contains, CharSet.containsCode]
    omega
  rw [hcode, Char.toNat_inj]

/-- The part of the pattern that stands for one character leads over the texts that this character
admits. -/
theorem reach_wildcardPart_at (h : marks.length = text.length + 1)
    (htext : text = before ++ after) :
    ((wildcardPart c).reach text marks).At before ↔
      ∃ front run, before = front ++ run ∧ marks.At front ∧ Admits c run := by
  by_cases hrun : c = '%'
  · subst hrun
    have hpart : wildcardPart '%' = .times (.oneOf CharSet.full) 0 none := rfl
    rw [hpart, reach_anyRun_at h htext]
    simp [Admits.run]
  · have hpart : wildcardPart c =
        .oneOf (if c = '_' then CharSet.full else CharSet.single c) := by
      simp only [wildcardPart, beq_iff_eq, hrun, if_false]
      split <;> rfl
    have hcontains : ∀ d,
        (if c = '_' then CharSet.full else CharSet.single c).contains d = true ↔
          (c == '_' || c == d) = true := by
      intro d
      split
      · rename_i hone
        simp [hone, contains_full]
      · rename_i hone
        simp [hone, contains_single]
    rw [hpart, reach_oneOf_at htext]
    simp only [hcontains, admits_of_ne hrun]
    constructor
    · rintro ⟨front, d, hbefore, hfront, hd⟩
      exact ⟨front, [d], hbefore, hfront, d, rfl, hd⟩
    · rintro ⟨front, _, hbefore, hfront, d, rfl, hd⟩
      exact ⟨front, d, hbefore, hfront, hd⟩

/-- The parts of the pattern together lead over the texts that it describes. -/
theorem reach_wildcardParts_at (h : marks.length = text.length + 1)
    (htext : text = before ++ after) :
    ((ps.map wildcardPart).foldl (fun m p => p.reach text m) marks).At before ↔
      ∃ front run, before = front ++ run ∧ marks.At front ∧ IsLike ps run := by
  induction ps generalizing marks with
  | nil =>
    constructor
    · intro hat
      exact ⟨before, [], (List.append_nil before).symm, hat, .nil⟩
    · rintro ⟨front, run, rfl, hat, ⟨⟩⟩
      rwa [List.append_nil]
  | cons c ps ih =>
    rw [List.map_cons, List.foldl_cons, ih (length_reach _ h)]
    constructor
    · rintro ⟨middle, rest, rfl, hat, hrest⟩
      rw [List.append_assoc] at htext
      obtain ⟨front, run, rfl, hfront, hrun⟩ := (reach_wildcardPart_at h htext).1 hat
      exact ⟨front, run ++ rest, List.append_assoc .., hfront, .cons hrun hrest⟩
    · rintro ⟨front, _, rfl, hfront, hlike⟩
      obtain ⟨run, rest, rfl, hrun, hrest⟩ := isLike_cons_iff.1 hlike
      refine ⟨front ++ run, rest, (List.append_assoc ..).symm, ?_, hrest⟩
      rw [← List.append_assoc, List.append_assoc] at htext
      exact (reach_wildcardPart_at h htext).2 ⟨front, run, rfl, hfront, hrun⟩

theorem reach_wildcardPattern (marks : Marks) :
    (wildcardPattern ps).reach text marks =
      (check .textEnd).reach text ((ps.map wildcardPart).foldl (fun m p => p.reach text m)
        ((check .textStart).reach text marks)) := by
  rw [wildcardPattern, reach_sequence, List.foldl_cons, List.foldl_cons, List.foldl_append]
  rfl

/-- The pattern occurs in the texts that the pattern with wildcards describes as a whole. -/
theorem occursIn_wildcardPattern :
    (wildcardPattern ps).occursIn text = true ↔ IsLike ps text := by
  have hmarks : ((check .textStart).reach text (List.replicate (text.length + 1) true)).length =
      text.length + 1 := length_reach _ List.length_replicate
  have hstart : ∀ front after : List Char, text = front ++ after →
      (((check .textStart).reach text (List.replicate (text.length + 1) true)).At front ↔
        front = []) := by
    intro front after htext
    have hlength : front.length < text.length + 1 := by rw [htext, List.length_append]; omega
    have hall : Marks.At (List.replicate (text.length + 1) true) front := by
      rw [Marks.At, List.getElem?_replicate, if_pos hlength]
    rw [reach_check_at htext]
    simp [hall, Boundary.holds]
  rw [occursIn_iff]
  simp only [reach_wildcardPattern]
  constructor
  · rintro ⟨before, after, htext, hat⟩
    obtain ⟨hparts, hend⟩ := (reach_check_at htext).1 hat
    obtain rfl : after = [] := by simpa [Boundary.holds] using hend
    obtain ⟨front, run, rfl, hfront, hlike⟩ := (reach_wildcardParts_at hmarks htext).1 hparts
    rw [List.append_nil] at htext
    obtain rfl := (hstart front run htext).1 hfront
    rw [htext]
    exact hlike
  · intro hlike
    have htext : text = text ++ [] := (List.append_nil text).symm
    refine ⟨text, [], htext, (reach_check_at htext).2 ⟨?_, rfl⟩⟩
    exact (reach_wildcardParts_at hmarks htext).2
      ⟨[], text, rfl, (hstart [] text rfl).2 rfl, hlike⟩

/-! ## Size -/

theorem room_seq_le (sets : CharSet → Nat) (ends : Nat) (p q : Pattern) :
    (seq p q).room sets ends ≤ p.room sets ends + q.room sets ends := by
  cases p with
  | empty => exact Nat.le_add_left _ _
  | _ =>
    cases q with
    | empty => exact Nat.le_add_right _ _
    | _ => exact le_rfl

theorem room_sequence_le {sets : CharSet → Nat} {ends k : Nat} {qs : List Pattern}
    (hstate : stateRoom ≤ k) (h : ∀ q ∈ qs, q.room sets ends ≤ k) :
    (Pattern.sequence qs).room sets ends ≤ (qs.length + 1) * k := by
  induction qs with
  | nil => simpa [Pattern.sequence, room] using hstate
  | cons q qs ih =>
    have hq := h q List.mem_cons_self
    have hqs := ih fun p hp => h p (List.mem_cons_of_mem _ hp)
    rw [List.length_cons, Nat.succ_mul]
    cases qs with
    | nil =>
      rw [Pattern.sequence]
      omega
    | cons p qs =>
      have hseq := room_seq_le sets ends q (Pattern.sequence (p :: qs))
      have hcons : Pattern.sequence (q :: p :: qs) = .seq q (Pattern.sequence (p :: qs)) := rfl
      rw [hcons]
      omega

theorem setRoom_single_le (c : Char) : setRoom (CharSet.single c) ≤ 4 * stateRoom := by
  have hroom : setRoom (CharSet.single c) = (Char.ofNat c.toNat).utf8Size * stateRoom := by
    simp [setRoom, CharSet.single, CharSet.range]
  rw [hroom]
  exact Nat.mul_le_mul_right _ (Char.utf8Size_le_four _)

theorem setRoom_full : setRoom CharSet.full = 964 := by decide +kernel

theorem room_wildcardPart_le {sets : CharSet → Nat} (ends : Nat) (hsets : ∀ s, sets s ≤ setRoom s)
    (c : Char) : (wildcardPart c).room sets ends ≤ 1004 := by
  have hfull := hsets CharSet.full
  have hsingle := (hsets (CharSet.single c)).trans (setRoom_single_le c)
  rw [setRoom_full] at hfull
  simp only [stateRoom] at hsingle
  rw [wildcardPart]
  split
  · have hrun : (times (oneOf CharSet.full) 0 none).room sets ends = sets CharSet.full + 40 := by
      simp [room, Pattern.isBlank, junctionRoom, stateRoom]
    omega
  · split
    · simp only [room]
      omega
    · simp only [Pattern.char, room]
      omega

/-- A pattern of ten thousand characters is not too big. -/
theorem isTooBig_wildcardPattern (h : ps.length ≤ 10000) :
    (wildcardPattern ps).isTooBig = false := by
  have hroom : ∀ (sets : CharSet → Nat) (ends : Nat), (∀ s, sets s ≤ setRoom s) →
      (wildcardPattern ps).room sets ends ≤ roomLimit := by
    intro sets ends hsets
    have hstate : stateRoom ≤ 1004 := by decide
    refine (room_sequence_le hstate ?_).trans ?_
    · simp only [List.forall_mem_cons, List.forall_mem_append, List.forall_mem_map,
        List.not_mem_nil, false_implies, implies_true, and_true]
      exact ⟨hstate, hstate, fun c _ => room_wildcardPart_le ends hsets c, hstate⟩
    · simp only [List.length_cons, List.length_append, List.length_map, List.length_nil, roomLimit]
      omega
  have hforward := hroom (fun s => min (setRoom s) (2 * stateRoom)) (2 * stateRoom)
    fun s => Nat.min_le_left _ _
  have hback := hroom setRoom 0 fun s => le_rfl
  simp [isTooBig, Nat.not_lt.2 hforward, Nat.not_lt.2 hback]

/-! ## The test -/

/-- The test on two values that are not missing is made of their texts: it tells whether the pattern
describes the text as a whole. No pattern is refused for what it contains, only for its size. -/
theorem like_eq {v p : Value} (hv : v.isNull = false) (hp : p.isNull = false) :
    like v p =
      (if (wildcardPattern p.stringify.toList).isTooBig then
        .error (.invalidPattern p.stringify .tooBig)
      else .ok (isLike p.stringify.toList v.stringify.toList)) ∧
    (isLike p.stringify.toList v.stringify.toList = true ↔
      IsLike p.stringify.toList v.stringify.toList) := by
  refine ⟨?_, isLike_iff⟩
  have hoccurs : (wildcardPattern p.stringify.toList).occursIn v.stringify.toList =
      isLike p.stringify.toList v.stringify.toList := by
    rw [Bool.eq_iff_iff, occursIn_wildcardPattern, isLike_iff]
  rw [like, hv, hp, ofText?_wildcards, Pattern.checked, ← hoccurs]
  cases (wildcardPattern p.stringify.toList).isTooBig <;> rfl

/-- Signs that mean something in expressions mean themselves, and a wildcard stands for a line break
or for a character of four bytes. -/
theorem like_eq_signs :
    let v : Value := .text "(a\n😀\\?)"
    let p : Value := .text "(a%_\\?)"
    v.isNull = false ∧ p.isNull = false ∧ like v p = .ok true ∧
      IsLike p.stringify.toList v.stringify.toList := by
  intro v p
  have hv : v.isNull = false := rfl
  have hp : p.isNull = false := rfl
  obtain ⟨hlike, hiff⟩ := like_eq hv hp
  have hsize : (wildcardPattern p.stringify.toList).isTooBig = false :=
    isTooBig_wildcardPattern (by decide)
  have hmatch : isLike p.stringify.toList v.stringify.toList = true := by decide +kernel
  rw [hsize, hmatch] at hlike
  exact ⟨hv, hp, hlike, hiff.1 hmatch⟩

end Value

end Compliance
