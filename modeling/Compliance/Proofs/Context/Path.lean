import Compliance.Proofs.Context
import Compliance.Proofs.Text.Digits
import Mathlib.Data.List.Induction

/-!
# Compliance.Proofs.Context.Path

What a path leads to, in a context made from a document and changed name by name.

* `Parts`                      — what a list or a record holds, for values and documents alike.
* `Leads`                      — the way of a path from container to container, segment by segment.
* `Value.leads_iff`            — walking through a value goes that way.
* `Value.leads_ofJson_iff`     — a document and its value lead to the same.
* `IsSplit`                    — a path and its segments.
* `Context.Answers`            — what a document and a history of names and values have at a path.
* `Context.resolve_iff`        — a context has just that.
-/

namespace Compliance

/-- The number that a segment of a path writes. Zeros and a plus sign in front do not count. -/
def IsIndex (segment : List Char) (i : Nat) : Prop :=
  ∃ ds, (segment = ds ∨ segment = '+' :: ds) ∧ ds ≠ [] ∧ (∀ c ∈ ds, c.isDigit = true) ∧
    Text.natOfDigits ds = i

/-- What something holds: items in their order, fields by their keys, or nothing. -/
inductive Parts (α : Type) where
  | none
  | items (xs : List α)
  | fields (ps : List (String × α))

/-- A segment leads to the field with that key, or to the item with that number, the first of which
is zero. -/
inductive Parts.Has {α : Type} : Parts α → List Char → α → Prop where
  | field {ps : List (String × α)} {segment : List Char} {x : α}
      (h : Keyed.find? (String.ofList segment) ps = some x) : Has (.fields ps) segment x
  | item {xs : List α} {segment : List Char} {i : Nat} {x : α} (hi : IsIndex segment i)
      (h : xs[i]? = some x) : Has (.items xs) segment x

/-- Segment by segment, a path leads from `x` to something that has the value `v`. Where it leads
no further, the value is null. -/
inductive Leads {α : Type} (parts : α → Parts α) (HasValue : α → Value → Prop) :
    List (List Char) → α → Value → Prop where
  | here {x : α} {v : Value} (h : HasValue x v) : Leads parts HasValue [] x v
  | step {segment : List Char} {rest : List (List Char)} {x y : α} {v : Value}
      (hy : (parts x).Has segment y) (h : Leads parts HasValue rest y v) :
      Leads parts HasValue (segment :: rest) x v
  | missing {segment : List Char} {rest : List (List Char)} {x : α}
      (h : ∀ y, ¬ (parts x).Has segment y) : Leads parts HasValue (segment :: rest) x .null

def Value.parts : Value → Parts Value
  | .list items => .items items
  | .record fields => .fields fields
  | _ => .none

def Json.parts : Json → Parts Json
  | .list items => .items items
  | .record fields => .fields fields
  | _ => .none

/-! ## Segments -/

theorem Text.unsigned?_eq_some_iff {ds : List Char} {n : Nat} :
    unsigned? ds = some n ↔ ds ≠ [] ∧ (∀ c ∈ ds, c.isDigit = true) ∧ natOfDigits ds = n := by
  unfold unsigned?
  by_cases hne : ds = []
  · simp [hne]
  · by_cases hall : ∀ c ∈ ds, c.isDigit = true
    · simp [hne, List.all_eq_true.2 hall]
      exact fun _ => hall
    · have hfalse : ds.all Char.isDigit = false := by
        rw [← Bool.not_eq_true, List.all_eq_true]
        exact hall
      simp [hfalse, hall]

theorem isIndex_iff {segment : List Char} {i : Nat} :
    IsIndex segment i ↔ Text.natOfText? segment = some i := by
  rw [Text.natOfText?, Text.unsigned?_eq_some_iff]
  constructor
  · rintro ⟨ds, rfl | rfl, hne, hall, hval⟩
    · have hdrop : Text.dropPlus segment = segment := by
        cases segment with
        | nil => rfl
        | cons c cs =>
          obtain ⟨-, hplus⟩ := Text.ne_sign_of_isDigit (hall c List.mem_cons_self)
          simp [Text.dropPlus, hplus]
      rw [hdrop]
      exact ⟨hne, hall, hval⟩
    · exact ⟨hne, hall, hval⟩
  · intro h
    refine ⟨Text.dropPlus segment, ?_, h⟩
    unfold Text.dropPlus
    split
    · exact .inr rfl
    · exact .inl rfl

theorem IsIndex.unique {segment : List Char} {i j : Nat} (hi : IsIndex segment i)
    (hj : IsIndex segment j) : i = j := by
  rw [isIndex_iff] at hi hj
  exact Option.some.inj (hi.symm.trans hj)

/-- A segment leads to one part at most. -/
theorem Parts.Has.unique {α : Type} {parts : Parts α} {segment : List Char} {x y : α}
    (hx : parts.Has segment x) (hy : parts.Has segment y) : x = y := by
  cases hx with
  | field hx =>
    cases hy with
    | field hy => exact Option.some.inj (hx.symm.trans hy)
  | item hi hx =>
    cases hy with
    | item hj hy =>
      rw [hi.unique hj] at hx
      exact Option.some.inj (hx.symm.trans hy)

/-! ## Paths -/

section Leads

variable {α : Type} {parts : α → Parts α} {HasValue : α → Value → Prop} {segment : List Char}
  {rest : List (List Char)} {x y : α} {v : Value}

theorem leads_nil : Leads parts HasValue [] x v ↔ HasValue x v := by
  constructor
  · intro h
    cases h with
    | here h => exact h
  · exact .here

theorem leads_cons_of_has (hy : (parts x).Has segment y) :
    Leads parts HasValue (segment :: rest) x v ↔ Leads parts HasValue rest y v := by
  constructor
  · intro h
    cases h with
    | step hz h =>
      rw [hy.unique hz]
      exact h
    | missing h => exact absurd hy (h y)
  · exact .step hy

theorem leads_cons_of_missing (hmissing : ∀ y, ¬ (parts x).Has segment y) :
    Leads parts HasValue (segment :: rest) x v ↔ v = .null := by
  constructor
  · intro h
    cases h with
    | step hy h => exact absurd hy (hmissing _)
    | missing h => rfl
  · rintro rfl
    exact .missing hmissing

end Leads

namespace Value

theorem child?_eq_some_iff {v w : Value} {segment : List Char} :
    v.child? segment = some w ↔ v.parts.Has segment w := by
  constructor
  · intro h
    cases v with
    | list items =>
      obtain ⟨i, hi, hw⟩ := Option.bind_eq_some_iff.1 h
      exact .item (isIndex_iff.2 hi) hw
    | record fields => exact .field h
    | _ => cases h
  · intro h
    cases v with
    | list items =>
      cases h with
      | item hi hw => exact Option.bind_eq_some_iff.2 ⟨_, isIndex_iff.1 hi, hw⟩
    | record fields =>
      cases h with
      | field hw => exact hw
    | _ => cases h

/-- Walking through a value follows the path, and missing data are null. -/
theorem leads_iff {path : List (List Char)} {v w : Value} :
    Leads parts Eq path v w ↔ (v.walk? path).getD .null = w := by
  induction path generalizing v with
  | nil => rw [leads_nil, walk?, Option.getD_some]
  | cons segment rest ih =>
    rw [walk?]
    cases hchild : v.child? segment with
    | some u =>
      rw [leads_cons_of_has (child?_eq_some_iff.1 hchild), ih]
      rfl
    | none =>
      have hmissing : ∀ u, ¬ v.parts.Has segment u := by
        intro u hu
        rw [child?_eq_some_iff.2 hu] at hchild
        cases hchild
      rw [leads_cons_of_missing hmissing]
      exact eq_comm

/-! ## Documents -/

theorem find?_ofFields {fields : List (String × Json)} {ps : List (String × Value)}
    (h : ofFields fields = .ok ps) (key : String) :
    (Keyed.find? key fields).map ofJson = (Keyed.find? key ps).map .ok := by
  induction fields generalizing ps with
  | nil =>
    cases h
    rfl
  | cons p fields ih =>
    obtain ⟨k, j⟩ := p
    rw [ofFields] at h
    split at h
    · cases h
    · rename_i v hv
      obtain ⟨qs, hqs, rfl⟩ := Except.map_eq_ok h
      rw [Keyed.find?, Keyed.find?]
      by_cases hkey : (key == k) = true
      · rw [if_pos hkey, if_pos hkey, Option.map_some, Option.map_some, hv]
      · rw [if_neg hkey, if_neg hkey, ih hqs]

theorem getElem?_ofItems {items : List Json} {vs : List Value} (h : ofItems items = .ok vs)
    (i : Nat) : items[i]?.map ofJson = vs[i]?.map .ok := by
  induction items generalizing vs i with
  | nil =>
    cases h
    rfl
  | cons j items ih =>
    rw [ofItems] at h
    split at h
    · cases h
    · rename_i v hv
      obtain ⟨ws, hws, rfl⟩ := Except.map_eq_ok h
      cases i with
      | zero => simp [hv]
      | succ i => simpa using ih hws i

/-- The parts of a document have values, and these are the parts of its value. -/
theorem has_ofJson {j i : Json} {v : Value} {segment : List Char} (h : ofJson j = .ok v)
    (hi : j.parts.Has segment i) : ∃ w, ofJson i = .ok w ∧ v.parts.Has segment w := by
  cases j with
  | list items =>
    rw [ofJson] at h
    obtain ⟨vs, hvs, rfl⟩ := Except.map_eq_ok h
    cases hi with
    | @item _ _ n _ hn hi =>
      have hparts := getElem?_ofItems hvs n
      rw [hi, Option.map_some] at hparts
      obtain ⟨w, hw, heq⟩ := Option.map_eq_some_iff.1 hparts.symm
      exact ⟨w, heq.symm, .item hn hw⟩
  | record fields =>
    rw [ofJson] at h
    obtain ⟨ps, hps, rfl⟩ := Except.map_eq_ok h
    cases hi with
    | field hi =>
      have hparts := find?_ofFields hps (String.ofList segment)
      rw [hi, Option.map_some] at hparts
      obtain ⟨w, hw, heq⟩ := Option.map_eq_some_iff.1 hparts.symm
      exact ⟨w, heq.symm, .field hw⟩
  | _ => cases hi

/-- The value of a document has no other parts. -/
theorem exists_has_of_ofJson {j : Json} {v w : Value} {segment : List Char} (h : ofJson j = .ok v)
    (hw : v.parts.Has segment w) : ∃ i, j.parts.Has segment i := by
  cases j with
  | list items =>
    rw [ofJson] at h
    obtain ⟨vs, hvs, rfl⟩ := Except.map_eq_ok h
    cases hw with
    | @item _ _ n _ hn hw =>
      have hparts := getElem?_ofItems hvs n
      rw [hw, Option.map_some] at hparts
      obtain ⟨i, hi, -⟩ := Option.map_eq_some_iff.1 hparts
      exact ⟨i, .item hn hi⟩
  | record fields =>
    rw [ofJson] at h
    obtain ⟨ps, hps, rfl⟩ := Except.map_eq_ok h
    cases hw with
    | field hw =>
      have hparts := find?_ofFields hps (String.ofList segment)
      rw [hw, Option.map_some] at hparts
      obtain ⟨i, hi, -⟩ := Option.map_eq_some_iff.1 hparts
      exact ⟨i, .field hi⟩
  | number n =>
    rw [ofJson] at h
    obtain ⟨d, -, rfl⟩ := Except.map_eq_ok h
    cases hw
  | _ =>
    cases h
    cases hw

/-- A path leads from a document to the document of what it leads to from the value. -/
theorem leads_ofJson_iff {path : List (List Char)} {j : Json} {v w : Value}
    (h : ofJson j = .ok v) :
    Leads Json.parts (fun i u => ofJson i = .ok u) path j w ↔ Leads parts Eq path v w := by
  induction path generalizing j v with
  | nil =>
    rw [leads_nil, leads_nil, h]
    exact ⟨Except.ok.inj, congrArg _⟩
  | cons segment rest ih =>
    by_cases hex : ∃ i, j.parts.Has segment i
    · obtain ⟨i, hi⟩ := hex
      obtain ⟨u, hu, hpart⟩ := has_ofJson h hi
      rw [leads_cons_of_has hi, leads_cons_of_has hpart, ih hu]
    · have hmissing : ∀ i, ¬ j.parts.Has segment i := fun i hi => hex ⟨i, hi⟩
      have hmissing' : ∀ u, ¬ v.parts.Has segment u := fun u hu => hex (exists_has_of_ofJson h hu)
      rw [leads_cons_of_missing hmissing, leads_cons_of_missing hmissing']

end Value

/-! ## Splitting -/

/-- The segments are what stands between the dots of a path. -/
def IsSplit (path : String) (segments : List (List Char)) : Prop :=
  segments ≠ [] ∧ (∀ segment ∈ segments, '.' ∉ segment) ∧
    ['.'].intercalate segments = path.toList

theorem Text.splitOn_eq (c : Char) (cs : List Char) : splitOn c cs = cs.splitOn c := by
  induction cs with
  | nil => rfl
  | cons d cs ih =>
    rw [splitOn, List.splitOn_cons_eq_if_modifyHead, ih]
    split
    · rfl
    · cases hparts : cs.splitOn c with
      | nil => exact absurd hparts (List.splitOn_ne_nil c cs)
      | cons part parts => rfl

theorem Text.not_mem_of_mem_splitOn {c : Char} {cs part : List Char} (h : part ∈ splitOn c cs) :
    c ∉ part := by
  induction cs generalizing part with
  | nil =>
    rw [List.mem_singleton.1 h]
    exact List.not_mem_nil
  | cons d cs ih =>
    rw [splitOn] at h
    split at h
    · rcases List.mem_cons.1 h with rfl | h
      · exact List.not_mem_nil
      · exact ih h
    · rename_i hd
      have hne : c ≠ d := by
        rintro rfl
        simp at hd
      split at h
      · simpa [List.mem_singleton.1 h] using hne
      · rename_i first parts heq
        rw [heq] at ih
        rcases List.mem_cons.1 h with rfl | h
        · rw [List.mem_cons, not_or]
          exact ⟨hne, ih List.mem_cons_self⟩
        · exact ih (List.mem_cons_of_mem _ h)

theorem isSplit_iff {path : String} {segments : List (List Char)} :
    IsSplit path segments ↔ Text.splitOn '.' path.toList = segments := by
  constructor
  · rintro ⟨hne, hdots, hpath⟩
    rw [Text.splitOn_eq, ← hpath]
    exact List.splitOn_intercalate '.' hdots hne
  · rintro rfl
    refine ⟨?_, fun segment h => Text.not_mem_of_mem_splitOn h, ?_⟩
    · rw [Text.splitOn_eq]
      exact List.splitOn_ne_nil '.' path.toList
    · rw [Text.splitOn_eq]
      exact List.intercalate_splitOn '.'

/-! ## Contexts -/

namespace Context

/-- Sets one name after the other. -/
def insertAll (c : Context) (inserts : List (String × Value)) : Context :=
  inserts.foldl (fun c p => c.insert p.1 p.2) c

theorem insertAll_append (c : Context) (inserts : List (String × Value)) (key : String)
    (v : Value) : c.insertAll (inserts ++ [(key, v)]) = (c.insertAll inserts).insert key v := by
  simp [insertAll]

section Resolve

variable {path : String} {first : List Char} {rest : List (List Char)}

theorem resolve_eq (hsplit : IsSplit path (first :: rest)) (c : Context) :
    c.resolve path =
      ((Keyed.find? (String.ofList first) c.root).bind (Value.walk? rest)).getD .null := by
  rw [resolve, isSplit_iff.1 hsplit]
  rfl

theorem resolve_insert_self {key : String} (hsplit : IsSplit path (key.toList :: rest))
    (c : Context) (v : Value) : (c.insert key v).resolve path = (v.walk? rest).getD .null := by
  rw [resolve_eq hsplit, insert, String.ofList_toList, Keyed.find?_insert_self]
  rfl

/-- A name does not count for paths that begin with another one. -/
theorem resolve_insert_of_ne {key : String} (hsplit : IsSplit path (first :: rest))
    (hne : key.toList ≠ first) (c : Context) (v : Value) :
    (c.insert key v).resolve path = c.resolve path := by
  have hkey : String.ofList first ≠ key := by
    rintro rfl
    exact hne String.toList_ofList
  rw [resolve_eq hsplit, resolve_eq hsplit, insert, Keyed.find?_insert_of_ne hkey]

end Resolve

/-- What a path leads to in a document, after some values were set by name: the last value that was
set under the first segment, or else the document, decides. -/
inductive Answers (doc : Json) (inserts : List (String × Value)) :
    List (List Char) → Value → Prop where
  | inserted {before after : List (String × Value)} {key : String} {v w : Value}
      {rest : List (List Char)} (hinserts : inserts = before ++ (key, v) :: after)
      (hlast : ∀ p ∈ after, p.1 ≠ key) (h : Leads Value.parts Eq rest v w) :
      Answers doc inserts (key.toList :: rest) w
  | own {first : List Char} {rest : List (List Char)} {w : Value}
      (hnone : ∀ p ∈ inserts, p.1.toList ≠ first)
      (h : Leads Json.parts (fun j v => Value.ofJson j = .ok v) (first :: rest) doc w) :
      Answers doc inserts (first :: rest) w

section Answers

variable {doc : Json} {inserts : List (String × Value)} {rest : List (List Char)} {w : Value}

theorem answers_nil {first : List Char} :
    Answers doc [] (first :: rest) w ↔
      Leads Json.parts (fun j v => Value.ofJson j = .ok v) (first :: rest) doc w := by
  constructor
  · intro h
    cases h with
    | inserted hinserts => simp at hinserts
    | own _ h => exact h
  · exact .own nofun

theorem eq_append_of_snoc {α : Type} {xs before after : List α} {x y : α}
    (h : xs ++ [x] = before ++ y :: after) :
    (after = [] ∧ x = y) ∨ ∃ after', after = after' ++ [x] ∧ xs = before ++ y :: after' := by
  rcases List.eq_nil_or_concat after with rfl | ⟨after', z, rfl⟩
  · exact .inl ⟨rfl, by simpa using (List.append_inj' h rfl).2⟩
  · rw [List.concat_eq_append, ← List.cons_append, ← List.append_assoc] at h
    obtain ⟨hxs, hx⟩ := List.append_inj' h rfl
    obtain rfl : x = z := by simpa using hx
    exact .inr ⟨after', List.concat_eq_append, hxs⟩

/-- What was set last under the first segment decides. -/
theorem answers_snoc_self {key : String} {v : Value} :
    Answers doc (inserts ++ [(key, v)]) (key.toList :: rest) w ↔ Leads Value.parts Eq rest v w := by
  constructor
  · intro h
    generalize hpath : key.toList :: rest = segments at h
    cases h with
    | inserted hinserts hlast h =>
      obtain ⟨hkey, rfl⟩ := List.cons.inj hpath
      rcases eq_append_of_snoc hinserts with ⟨-, heq⟩ | ⟨after, rfl, -⟩
      · cases heq
        exact h
      · exact absurd (String.toList_injective hkey) (hlast (key, v) (by simp))
    | own hnone h =>
      obtain ⟨rfl, rfl⟩ := List.cons.inj hpath
      exact absurd rfl (hnone (key, v) (by simp))
  · intro h
    exact .inserted rfl nofun h

/-- What was set under another name is passed over. -/
theorem answers_snoc_of_ne {first : List Char} {key : String} {v : Value}
    (hne : key.toList ≠ first) :
    Answers doc (inserts ++ [(key, v)]) (first :: rest) w ↔
      Answers doc inserts (first :: rest) w := by
  constructor
  · intro h
    cases h with
    | inserted hinserts hlast h =>
      rcases eq_append_of_snoc hinserts with ⟨-, heq⟩ | ⟨after, rfl, rfl⟩
      · cases heq
        exact absurd rfl hne
      · exact .inserted rfl (fun p hp => hlast p (List.mem_append_left _ hp)) h
    | own hnone h => exact .own (fun p hp => hnone p (List.mem_append_left _ hp)) h
  · intro h
    cases h with
    | @inserted before after key' u w' rest' hinserts hlast h =>
      have hlast' : ∀ p ∈ after ++ [(key, v)], p.1 ≠ key' := by
        intro p hp
        rcases List.mem_append.1 hp with hp | hp
        · exact hlast p hp
        · rw [List.mem_singleton.1 hp]
          rintro rfl
          exact hne rfl
      rw [hinserts, List.append_assoc]
      exact .inserted rfl hlast' h
    | own hnone h =>
      refine .own ?_ h
      intro p hp
      rcases List.mem_append.1 hp with hp | hp
      · exact hnone p hp
      · rw [List.mem_singleton.1 hp]
        exact hne

end Answers

/-- A context has at a path what its document and its history have there. -/
theorem resolve_insertAll_iff {doc : Json} {context : Context} (h : ofJson doc = .ok context)
    (inserts : List (String × Value)) {path : String} {first : List Char} {rest : List (List Char)}
    (hsplit : IsSplit path (first :: rest)) (w : Value) :
    (context.insertAll inserts).resolve path = w ↔ Answers doc inserts (first :: rest) w := by
  -- the history is taken from its end, where the last value of a name stands
  induction inserts using List.reverseRecOn with
  | nil =>
    rw [answers_nil, Value.leads_ofJson_iff (ofJson_eq_ok.1 h), Value.leads_iff, insertAll,
      List.foldl_nil, resolve_eq hsplit]
    rfl
  | append_singleton inserts p ih =>
    obtain ⟨key, v⟩ := p
    rw [insertAll_append]
    by_cases hkey : key.toList = first
    · subst hkey
      rw [resolve_insert_self hsplit, answers_snoc_self, Value.leads_iff]
    · rw [resolve_insert_of_ne hsplit hkey, answers_snoc_of_ne hkey, ih]

theorem exists_isSplit (path : String) : ∃ first rest, IsSplit path (first :: rest) := by
  obtain ⟨hne, hdots, hpath⟩ := isSplit_iff.2 (rfl : Text.splitOn '.' path.toList = _)
  cases hsegments : Text.splitOn '.' path.toList with
  | nil => exact absurd hsegments hne
  | cons first rest => exact ⟨first, rest, isSplit_iff.2 hsegments⟩

/-- A context that was made from a document, and in which values were set by name, has at every path
what the rules say: the path is split at its dots, and leads through fields and items from what was
set last under its first segment, or else from the document; where a segment is missing there is
nothing. A name that is set leaves all paths alone that begin with another one. -/
theorem resolve_iff {doc : Json} {context : Context} (h : ofJson doc = .ok context)
    (inserts : List (String × Value)) (path : String) :
    (∀ v, (context.insertAll inserts).resolve path = v ↔
      ∃ segments, IsSplit path segments ∧ Answers doc inserts segments v) ∧
    ∀ (key : String) (v : Value),
      (∀ segments, IsSplit path segments → segments.head? ≠ some key.toList) →
      ((context.insertAll inserts).insert key v).resolve path =
        (context.insertAll inserts).resolve path := by
  obtain ⟨first, rest, hsplit⟩ := exists_isSplit path
  constructor
  · intro v
    rw [resolve_insertAll_iff h inserts hsplit]
    constructor
    · intro hv
      exact ⟨_, hsplit, hv⟩
    · rintro ⟨segments, hsegments, hv⟩
      rw [← isSplit_iff.1 hsplit, isSplit_iff.1 hsegments]
      exact hv
  · intro key v hkey
    have hne : key.toList ≠ first := by
      rintro rfl
      exact hkey _ hsplit rfl
    exact resolve_insert_of_ne hsplit hne _ v

/-- The last list set under its name hides the text of the document and the text set before. In the
document itself, `0` is a key at one place and the number of an item at another, and a truth value
holds nothing. -/
theorem resolve_iff_order :
    let doc : Json := .record [("limit", .text "low"), ("order", .record [("0", .bool true),
      ("items", .list [.text "a", .null])])]
    let context : Context := ⟨[("limit", .text "low"), ("order", .record [("0", .bool true),
      ("items", .list [.text "a", .null])])]⟩
    let inserts : List (String × Value) :=
      [("limit", .text "mid"), ("user", .null), ("limit", .list [.text "high"]), ("user", .null)]
    ofJson doc = .ok context ∧
      (context.insertAll inserts).resolve "limit.0" = .text "high" ∧
      (context.insertAll inserts).resolve "order.0" = .bool true ∧
      (context.insertAll inserts).resolve "order.items.0" = .text "a" ∧
      (context.insertAll inserts).resolve "order.0.0" = .null := by
  intro doc context inserts
  have hdoc : ofJson doc = .ok context := rfl
  have hrules := resolve_iff hdoc inserts
  have hzero : IsIndex ['0'] 0 := ⟨['0'], .inl rfl, by decide, by simp, rfl⟩
  have hlimit : inserts = [("limit", .text "mid"), ("user", .null)] ++
      ("limit", .list [.text "high"]) :: [("user", .null)] := rfl
  have horder : ∀ p ∈ inserts, p.1.toList ≠ "order".toList := by simp [inserts]
  refine ⟨hdoc, ?_, ?_, ?_, ?_⟩
  · refine ((hrules "limit.0").1 _).2 ⟨["limit".toList, ['0']], isSplit_iff.2 rfl, ?_⟩
    exact .inserted hlimit (by simp) (.step (.item hzero rfl) (.here rfl))
  · refine ((hrules "order.0").1 _).2 ⟨["order".toList, ['0']], isSplit_iff.2 rfl, ?_⟩
    exact .own horder (.step (.field rfl) (.step (.field rfl) (.here rfl)))
  · refine ((hrules "order.items.0").1 _).2
      ⟨["order".toList, "items".toList, ['0']], isSplit_iff.2 rfl, ?_⟩
    exact .own horder
      (.step (.field rfl) (.step (.field rfl) (.step (.item hzero rfl) (.here rfl))))
  · refine ((hrules "order.0.0").1 _).2 ⟨["order".toList, ['0'], ['0']], isSplit_iff.2 rfl, ?_⟩
    exact .own horder (.step (.field rfl) (.step (.field rfl) (.missing nofun)))

end Context

end Compliance
