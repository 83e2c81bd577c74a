import Compliance.Text.Blank

/-!
# Compliance.Proofs.Text.Blank

Blanks around a text.

* `isBlank_of_isDigit` — digits are no blanks.
* `IsSolid`            — a text without blanks.
* `trim_around`        — such a text is what trimming leaves of it, with any blanks around it.
-/

namespace Compliance.Text

theorem isBlank_of_isDigit {c : Char} (h : c.isDigit = true) : isBlank c = false := by
  simp only [Char.isDigit, ge_iff_le, Bool.and_eq_true, decide_eq_true_eq] at h
  have hlow : 48 ≤ c.toNat := h.1
  have hhigh : c.toNat ≤ 57 := h.2
  simp [isBlank]
  omega

/-- No character is a blank. -/
def IsSolid (cs : List Char) : Prop := ∀ c ∈ cs, isBlank c = false

@[simp] theorem isSolid_nil : IsSolid [] := nofun

@[simp] theorem isSolid_cons {c : Char} {cs : List Char} :
    IsSolid (c :: cs) ↔ isBlank c = false ∧ IsSolid cs := List.forall_mem_cons

@[simp] theorem isSolid_append {cs ds : List Char} :
    IsSolid (cs ++ ds) ↔ IsSolid cs ∧ IsSolid ds := List.forall_mem_append

theorem isSolid_of_isDigit {cs : List Char} (h : ∀ c ∈ cs, c.isDigit = true) : IsSolid cs :=
  fun c hc => isBlank_of_isDigit (h c hc)

theorem IsSolid.dropWhile_append {cs post : List Char} (h : IsSolid cs) (hne : cs ≠ []) :
    (cs ++ post).dropWhile isBlank = cs ++ post := by
  cases cs with
  | nil => exact absurd rfl hne
  | cons c cs =>
    have hc : ¬ isBlank c = true := by simp [h c List.mem_cons_self]
    exact List.dropWhile_cons_of_neg hc

/-- Blanks around a text without any do not count. -/
theorem trim_around {pre cs post : List Char} (hpre : ∀ c ∈ pre, isBlank c = true)
    (hpost : ∀ c ∈ post, isBlank c = true) (h : IsSolid cs) (hne : cs ≠ []) :
    trim (pre ++ (cs ++ post)) = cs := by
  have hleft : trimLeft (pre ++ (cs ++ post)) = cs ++ post := by
    rw [trimLeft, List.dropWhile_append_of_pos hpre, h.dropWhile_append hne]
  have hsolid : IsSolid cs.reverse := fun c hc => h c (List.mem_reverse.1 hc)
  have hback : (cs.reverse ++ []).dropWhile isBlank = cs.reverse ++ [] :=
    hsolid.dropWhile_append (by simpa using hne)
  rw [List.append_nil] at hback
  rw [trim, hleft, trimRight, List.reverse_append,
    List.dropWhile_append_of_pos fun c hc => hpost c (List.mem_reverse.1 hc), hback,
    List.reverse_reverse]

end Compliance.Text
