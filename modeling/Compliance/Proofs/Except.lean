import Mathlib.Data.List.Basic

/-!
# Compliance.Proofs.Except

Computations that end without an error, taken apart, and those that end with the first one.

* `Except.map_eq_ok`  — the value that a function was applied to.
* `Except.bind_eq_ok` — the value that a computation went on with.
* `Except.eq_ok_of_toOption`, `Except.isSome_toOption_iff`, `Except.exists_eq_ok` — the value of a
  computation that ended without an error, given the value or not.
* `FailsFirst`        — a computation over a list that fails at the first of its faults.
-/

namespace Compliance

theorem Except.map_eq_ok {ε α β : Type} {x : Except ε α} {f : α → β} {b : β}
    (h : x.map f = .ok b) : ∃ a, x = .ok a ∧ b = f a := by
  cases x with
  | error e => cases h
  | ok a =>
    cases h
    exact ⟨a, rfl, rfl⟩

theorem Except.bind_eq_ok {ε α β : Type} {x : Except ε α} {f : α → Except ε β} {b : β}
    (h : (x >>= f) = .ok b) : ∃ a, x = .ok a ∧ f a = .ok b := by
  cases x with
  | error e => cases h
  | ok a => exact ⟨a, rfl, h⟩

theorem Except.eq_ok_of_toOption {ε α : Type} {x : Except ε α} {a : α}
    (h : x.toOption = some a) : x = .ok a := by
  cases x with
  | error e => cases h
  | ok b =>
    cases h
    rfl

theorem Except.isSome_toOption_iff {ε α : Type} {x : Except ε α} :
    x.toOption.isSome = true ↔ ∃ a, x = .ok a := by
  cases x <;> simp [Except.toOption]

theorem Except.exists_eq_ok {ε α : Type} {x : Except ε α} (h : x.isOk = true) :
    ∃ a, x = .ok a := by
  cases x with
  | error e => cases h
  | ok a => exact ⟨a, rfl⟩

/-! ## The first fault -/

/-- Of some things, those with a fault make a computation fail, and the first of them says how. -/
def FailsFirst {ε α γ : Type} (fault? : γ → Option ε) (vs : List γ) (x : Except ε α) : Prop :=
  ∀ e, x = .error e ↔ vs.findSome? fault? = some e

namespace FailsFirst

variable {ε α β γ : Type} {fault? : γ → Option ε} {v : γ} {vs ws : List γ} {x : Except ε α}

theorem ok (a : α) : FailsFirst fault? [] (.ok a : Except ε α) := fun e => by simp

theorem skip (hv : fault? v = none) (h : FailsFirst fault? vs x) :
    FailsFirst fault? (v :: vs) x := by
  intro e
  rw [List.findSome?_cons, hv]
  exact h e

theorem findSome?_eq_none_of_ok {a : α} (h : FailsFirst fault? vs (.ok a : Except ε α)) :
    vs.findSome? fault? = none := by
  by_contra hsome
  obtain ⟨e, he⟩ := Option.ne_none_iff_exists'.1 hsome
  cases (h e).2 he

theorem bind {f : α → Except ε β} (h : FailsFirst fault? vs x)
    (h' : ∀ a, FailsFirst fault? ws (f a)) : FailsFirst fault? (vs ++ ws) (x >>= f) := by
  intro e
  rw [List.findSome?_append]
  cases x with
  | error e' =>
    rw [(h e').1 rfl]
    simp [Bind.bind, Except.bind]
  | ok a =>
    rw [h.findSome?_eq_none_of_ok, Option.none_or]
    exact h' a e

theorem map (f : α → β) (h : FailsFirst fault? vs x) : FailsFirst fault? vs (x.map f) := by
  intro e
  rw [← h e]
  cases x <;> simp [Except.map]

/-- What is made of the last part does not fail. -/
theorem last (f : α → β) (h : FailsFirst fault? vs x) :
    FailsFirst fault? vs (x >>= fun a => (pure (f a) : Except ε β)) := by
  have hbind := h.bind fun a => ok (f a)
  rwa [List.append_nil] at hbind

theorem exists_eq_ok_iff (h : FailsFirst fault? vs x) :
    (∃ a, x = .ok a) ↔ ∀ v ∈ vs, fault? v = none := by
  rw [← List.findSome?_eq_none_iff]
  cases x with
  | error e =>
    rw [(h e).1 rfl]
    simp
  | ok a => exact iff_of_true ⟨a, rfl⟩ h.findSome?_eq_none_of_ok

end FailsFirst

end Compliance
