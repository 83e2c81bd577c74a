import Compliance.Proofs.Text.Digits
import Compliance.Text.Lines

/-!
# Compliance.Proofs.Text.Lines

Texts of one line, and the lines of a text that is put together from lines.

* `IsOneLine`         — a text without a line feed.
* `lines_ended`       — texts of one line, each with a line feed behind it, are the lines.
* `length_lines_ended_eq_iff` — other texts come to more lines.
-/

namespace Compliance.Text

/-- The text has no line feed in it. -/
def IsOneLine (cs : List Char) : Prop := '\n' ∉ cs

instance (cs : List Char) : Decidable (IsOneLine cs) := inferInstanceAs (Decidable ('\n' ∉ cs))

@[simp] theorem isOneLine_nil : IsOneLine [] := List.not_mem_nil

@[simp] theorem isOneLine_cons {c : Char} {cs : List Char} :
    IsOneLine (c :: cs) ↔ '\n' ≠ c ∧ IsOneLine cs := by
  rw [IsOneLine, List.mem_cons, not_or]
  rfl

@[simp] theorem isOneLine_append {cs ds : List Char} :
    IsOneLine (cs ++ ds) ↔ IsOneLine cs ∧ IsOneLine ds := by
  rw [IsOneLine, List.mem_append, not_or]
  rfl

/-- A test that a line feed does not pass. -/
theorem isOneLine_of_forall {cs : List Char} {p : Char → Bool} (hp : p '\n' = false)
    (h : ∀ c ∈ cs, p c = true) : IsOneLine cs := by
  intro hmem
  rw [h _ hmem] at hp
  cases hp

@[simp] theorem isOneLine_digits (n : Nat) : IsOneLine (digits n) :=
  isOneLine_of_forall (p := Char.isDigit) rfl fun _ => isDigit_of_mem_digits

@[simp] theorem isOneLine_padded (width n : Nat) : IsOneLine (padded width n) :=
  isOneLine_of_forall (p := Char.isDigit) rfl fun _ => isDigit_of_mem_padded

/-! ## Lines -/

/-- The lines, each one with a line feed behind it. -/
def ended (ls : List (List Char)) : List Char := ls.flatMap (· ++ ['\n'])

theorem linesFrom_append {line rest : List Char} (h : IsOneLine line) (current : List Char) :
    linesFrom current (line ++ '\n' :: rest) =
      dropReturn (current.reverse ++ line) :: linesFrom [] rest := by
  induction line generalizing current with
  | nil => simp [linesFrom]
  | cons c line ih =>
    obtain ⟨hc, hline⟩ := isOneLine_cons.1 h
    rw [List.cons_append, linesFrom.eq_4 _ _ _ hc.symm, ih hline]
    simp

/-- Texts of one line, each with a line feed behind it, are the lines. -/
theorem lines_ended {ls : List (List Char)} (h : ∀ l ∈ ls, IsOneLine l) :
    lines (ended ls) = ls.map dropReturn := by
  induction ls with
  | nil => rfl
  | cons l ls ih =>
    obtain ⟨hl, hls⟩ := List.forall_mem_cons.1 h
    rw [lines, ended, List.flatMap_cons, List.append_assoc, List.singleton_append,
      linesFrom_append hl, List.map_cons, ← ih hls]
    rfl

/-- Each line feed of a text begins another line. -/
theorem length_linesFrom_append (current text rest : List Char) :
    (linesFrom current (text ++ '\n' :: rest)).length =
      text.count '\n' + 1 + (linesFrom [] rest).length := by
  induction text generalizing current with
  | nil => simp [linesFrom, Nat.add_comm]
  | cons c text ih =>
    rw [List.cons_append]
    by_cases hc : c = '\n'
    · subst hc
      rw [linesFrom, List.length_cons, ih, List.count_cons_self]
      omega
    · rw [linesFrom.eq_4 _ _ _ hc, ih, List.count_cons_of_ne hc]

theorem length_lines_ended (ls : List (List Char)) :
    (lines (ended ls)).length = ls.length + ls.flatten.count '\n' := by
  induction ls with
  | nil => rfl
  | cons l ls ih =>
    have hrest : (linesFrom [] (ended ls)).length = ls.length + ls.flatten.count '\n' := ih
    rw [lines, ended, List.flatMap_cons, List.append_assoc, List.singleton_append,
      length_linesFrom_append, ← ended, hrest, List.length_cons, List.flatten_cons,
      List.count_append]
    omega

/-- Other texts come to more lines. -/
theorem length_lines_ended_eq_iff {ls : List (List Char)} :
    (lines (ended ls)).length = ls.length ↔ ∀ l ∈ ls, IsOneLine l := by
  rw [length_lines_ended, Nat.add_eq_left, List.count_eq_zero]
  simp only [IsOneLine, List.mem_flatten, not_exists, not_and]

end Compliance.Text
