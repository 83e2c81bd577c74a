import Compliance.Provenance

/-!
# Compliance.Proofs.Provenance

Which names a provenance holds, and in which order.

* `paths_ofReferences`, `functions_ofReferences` — the names that were referred to, each at the
  place of its first use.
* `mem_paths_ofReferences`, `mem_functions_ofReferences` — exactly the names that were referred to.
-/

namespace Compliance

/-- The path that a reference is to. -/
def Reference.path? : Reference → Option String
  | .variable path => some path
  | .function _ => none

/-- The function that a reference is to. -/
def Reference.function? : Reference → Option String
  | .variable _ => none
  | .function name => some name

namespace Provenance

/-- A name that is taken down last is kept just in case it is the first of its kind. -/
theorem addNew_eraseDups (name : String) (names : List String) :
    addNew name names.eraseDups = (names ++ [name]).eraseDups := by
  rw [addNew, List.eraseDups_append]
  by_cases h : name ∈ names
  · simp [List.removeAll, h]
  · simp [List.removeAll, h, List.eraseDups_cons]

/-- Both lists of a provenance grow by the names that the references have for them. -/
theorem foldl_record (names : Provenance → List String) (name? : Reference → Option String)
    (hrecord : ∀ p r, names (p.record r) = (name? r).elim (names p) (addNew · (names p)))
    (rs : List Reference) {p : Provenance} {seen : List String}
    (hseen : names p = seen.eraseDups) :
    names (rs.foldl record p) = (seen ++ rs.filterMap name?).eraseDups := by
  induction rs generalizing p seen with
  | nil => simpa using hseen
  | cons r rs ih =>
    have hr := hrecord p r
    rw [List.foldl_cons]
    cases h : name? r with
    | none =>
      rw [h] at hr
      rw [ih (hr.trans hseen), List.filterMap_cons_none h]
    | some name =>
      rw [h, Option.elim_some, hseen, addNew_eraseDups] at hr
      rw [ih hr, List.filterMap_cons_some h, List.append_assoc, List.singleton_append]

theorem paths_ofReferences (rs : List Reference) :
    (ofReferences rs).paths = (rs.filterMap Reference.path?).eraseDups :=
  have hempty : empty.paths = List.eraseDups [] := rfl
  foldl_record paths Reference.path? (fun p r => by cases r <;> rfl) rs hempty

theorem functions_ofReferences (rs : List Reference) :
    (ofReferences rs).functions = (rs.filterMap Reference.function?).eraseDups :=
  have hempty : empty.functions = List.eraseDups [] := rfl
  foldl_record functions Reference.function? (fun p r => by cases r <;> rfl) rs hempty

theorem mem_paths_ofReferences {rs : List Reference} {path : String} :
    path ∈ (ofReferences rs).paths ↔ .variable path ∈ rs := by
  rw [paths_ofReferences, List.mem_eraseDups, List.mem_filterMap]
  constructor
  · rintro ⟨r, hr, hpath⟩
    cases r <;> cases hpath
    exact hr
  · exact fun h => ⟨_, h, rfl⟩

theorem mem_functions_ofReferences {rs : List Reference} {name : String} :
    name ∈ (ofReferences rs).functions ↔ .function name ∈ rs := by
  rw [functions_ofReferences, List.mem_eraseDups, List.mem_filterMap]
  constructor
  · rintro ⟨r, hr, hname⟩
    cases r <;> cases hname
    exact hr
  · exact fun h => ⟨_, h, rfl⟩

end Provenance

end Compliance
