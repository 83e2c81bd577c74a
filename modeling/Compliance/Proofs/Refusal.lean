import Compliance.Proofs.Grammar.Unbounded
import Compliance.Proofs.Token.Extension

/-!
# Compliance.Proofs.Refusal

Where reading fails, and what that says about the tokens up to there.

* `Tokens.Like`  — what a reader sees of the tokens in front of which it stops.
* `FailsOn`      — reading fails as soon as the tokens begin in a certain way.
* `Completes`    — tokens that become something derivable with plain ones behind them.
* `Refusal`      — the error of a reader: either it stands where the tokens cannot be continued any
  more, or up to three tokens behind that place.
* `Taken`        — what is read does not depend on what follows, as far as the reader can see.
* `Settles`      — one of the two holds for given tokens.

`Refusal.behind` and `Settles.behind` carry these facts from a reader to one that calls it.
-/

namespace Compliance

open Tokens

variable {α β : Type}

/-! ## What a reader sees -/

/-- What a reader sees of the tokens in front of which it stops: the next one, and that a `NOT` is
not the first half of `NOT IN`. -/
structure Tokens.Like (us ts : Tokens) : Prop where
  next : us.next = ts.next
  lone : ts.next = .word "NOT" → ts.skip.next ≠ .word "IN" → us.skip.next ≠ .word "IN"

namespace Tokens

theorem Like.refl (ts : Tokens) : ts.Like ts := ⟨rfl, fun _ h => h⟩

theorem Like.of_next {us ts : Tokens} (h : us.next = ts.next) (hn : ts.next ≠ .word "NOT") :
    us.Like ts :=
  ⟨h, fun hnot => absurd hnot hn⟩

theorem Like.of_cons {ts : Tokens} {t : Token} (h : ts.next = t) (hn : t ≠ .word "NOT")
    (p : Position) (us : Tokens) : Tokens.Like (⟨t, p⟩ :: us) ts :=
  .of_next h.symm (h ▸ hn)

theorem Like.append {us ts xs ys : Tokens} (hk : us.kinds = ts.kinds) (h : xs.Like ys) :
    (us ++ xs).Like (ts ++ ys) := by
  cases ts with
  | nil =>
    obtain rfl := List.map_eq_nil_iff.1 hk
    exact h
  | cons t ts =>
    obtain ⟨p, us, rfl, htail⟩ := kinds_eq_cons hk
    cases ts with
    | nil =>
      obtain rfl := List.map_eq_nil_iff.1 htail
      exact ⟨rfl, fun _ hin => by simpa [h.next] using hin⟩
    | cons u ts =>
      obtain ⟨q, us, rfl, -⟩ := kinds_eq_cons htail
      exact ⟨rfl, fun _ hin => hin⟩

/-- The first one of some tokens and the token behind them. -/
theorem headD_kinds (ts us : Tokens) : ts.kinds.headD us.next = (ts ++ us).next := by
  cases ts <;> rfl

theorem next_append {ts : Tokens} (h : ts ≠ []) (us : Tokens) : (ts ++ us).next = ts.next := by
  cases ts with
  | nil => exact absurd rfl h
  | cons t ts => rfl

theorem length_skip_lt {ts : Tokens} {t : Token} (h : ts.next = t) (ht : t ≠ .endOfInput) :
    List.length ts.skip < List.length ts := by
  obtain ⟨p, hts⟩ := eq_cons_of_next h ht
  have hlen := congrArg List.length hts
  rw [List.length_cons] at hlen
  omega

/-- Splits tokens along the kinds of two lists. -/
theorem kinds_eq_append_kinds {us ts ts' : Tokens} (h : us.kinds = Tokens.kinds (ts ++ ts')) :
    ∃ vs ws : Tokens, us = vs ++ ws ∧ vs.kinds = ts.kinds ∧ ws.kinds = ts'.kinds :=
  kinds_eq_append (h.trans (kinds_append ts ts'))

end Tokens

theorem Tokens.expectWord_of_ne {w : String} {ts : Tokens} (h : ts.next ≠ .word w) :
    ts.expectWord w = ts.refuse (.expectedWord w ts.next) := by
  have hno : ts.startsWith w = false := by simpa [startsWith] using h
  rw [expectWord, hno]
  rfl

/-! ## Refusals -/

/-- Reading fails on all tokens that begin with the kinds `pre` and go on like `post`. -/
def FailsOn (f : Tokens → Except Diagnostic α) (pre : List Token) (post : Tokens) : Prop :=
  ∀ us vs : Tokens, us.kinds = pre → vs.Like post → ∃ d, f (us ++ vs) = .error d

/-- Plain tokens that do not begin with `IN`. -/
def goesOn (ts : List Token) : Bool := ts.head? != some (.word "IN") && ts.all Token.isPlain

theorem goesOn_append {ts us : List Token} (hts : goesOn ts = true) (hus : goesOn us = true) :
    goesOn (ts ++ us) = true := by
  simp only [goesOn, Bool.and_eq_true, List.all_append] at *
  refine ⟨?_, hts.2, hus.2⟩
  cases ts with
  | nil => exact hus.1
  | cons t ts => exact hts.1

/-- With plain tokens behind them, the tokens `pre` become something derivable. -/
def Completes (D : List Token → α → Prop) (pre : List Token) : Prop :=
  ∃ more a, goesOn more = true ∧ D (pre ++ more) a

theorem Completes.of_derives {D : List Token → α → Prop} {pre : List Token} {a : α} (h : D pre a) :
    Completes D pre :=
  ⟨[], a, rfl, by simpa using h⟩

/-- How reading `ts` fails with `d`. Nothing derivable begins with the tokens `pre` and the one
behind them, and `d` stands there; where `Over` holds, the reader has gone on for up to three
tokens. -/
inductive Refusal (f : Tokens → Except Diagnostic α) (D : List Token → β → Prop)
    (Over : List Token → Token → Prop) (ts : Tokens) (d : Diagnostic) : Prop where
  | exact (pre post : Tokens) (hts : ts = pre ++ post) (hd : d.position = post.peek.position)
      (hfails : FailsOn f pre.kinds post) (hpre : Completes D pre.kinds)
      (hover : ¬ Over pre.kinds post.next)
  | late (pre mid post : Tokens) (hts : ts = pre ++ (mid ++ post))
      (hd : d.position = post.peek.position) (hne : mid ≠ []) (hlen : List.length mid ≤ 3)
      (hend : .endOfInput ∉ mid.kinds) (hfails : FailsOn f pre.kinds (mid ++ post))
      (hpre : Completes D pre.kinds) (hover : Over pre.kinds mid.next)

/-- Reading fails at the first token. -/
theorem Refusal.first {f : Tokens → Except Diagnostic α} {D : List Token → β → Prop}
    {Over : List Token → Token → Prop} {ts : Tokens} {d : Diagnostic}
    (hd : d.position = ts.peek.position)
    (hfails : ∀ vs : Tokens, vs.Like ts → ∃ e, f vs = .error e) (hpre : Completes D [])
    (hover : ¬ Over [] ts.next) : Refusal f D Over ts d := by
  refine .exact [] ts rfl hd ?_ hpre hover
  intro us vs hus hvs
  obtain rfl := List.map_eq_nil_iff.1 hus
  exact hfails vs hvs

/-- What reading took does not depend on the tokens behind it, as far as the reader can see. -/
structure Taken (f : Reader α) (D : List Token → α → Prop) (Over : List Token → Token → Prop)
    (used : Tokens) (a : α) (rest : Tokens) : Prop where
  derives : D used.kinds a
  stays : ∀ us vs : Tokens, us.kinds = used.kinds → vs.Like rest → f (us ++ vs) = .ok (a, vs)
  clear : ¬ Over used.kinds rest.next

/-- What a result of reading `ts` says. -/
def Settled (f : Reader α) (D : List Token → α → Prop) (Over : List Token → Token → Prop)
    (ts : Tokens) : Except Diagnostic (α × Tokens) → Prop
  | .ok (a, rest) => ∃ used : Tokens, ts = used ++ rest ∧ Taken f D Over used a rest
  | .error d => Refusal f D Over ts d

def Settles (f : Reader α) (D : List Token → α → Prop) (Over : List Token → Token → Prop)
    (ts : Tokens) : Prop :=
  Settled f D Over ts (f ts)

theorem Settles.taken {f : Reader α} {D : List Token → α → Prop} {Over : List Token → Token → Prop}
    {ts rest : Tokens} {a : α} (h : Settles f D Over ts) (hread : f ts = .ok (a, rest)) :
    ∃ used : Tokens, ts = used ++ rest ∧ Taken f D Over used a rest := by
  rwa [Settles, hread] at h

theorem Settles.refusal {f : Reader α} {D : List Token → α → Prop}
    {Over : List Token → Token → Prop} {ts : Tokens} {d : Diagnostic} (h : Settles f D Over ts)
    (hread : f ts = .error d) : Refusal f D Over ts d := by
  rwa [Settles, hread] at h

/-! ## Readers that call readers -/

section Behind

variable {γ δ : Type} {rest : Tokens} {Over Over' : List Token → Token → Prop}

theorem Completes.behind {D : List Token → β → Prop} {D' : List Token → δ → Prop}
    {us pre : List Token} (h : Completes D' pre)
    (hD : ∀ ks b, D' ks b → Completes D (us ++ ks)) : Completes D (us ++ pre) := by
  obtain ⟨more, b, hmore, hb⟩ := h
  obtain ⟨more', a, hmore', ha⟩ := hD _ b hb
  exact ⟨more ++ more', a, goesOn_append hmore hmore', by simpa using ha⟩

/-- The refusal of a reader `g` is one of a reader `f` that calls it behind the tokens `used`. -/
theorem Refusal.behind {f : Tokens → Except Diagnostic α} {g : Tokens → Except Diagnostic γ}
    {D : List Token → β → Prop} {D' : List Token → δ → Prop} {d : Diagnostic}
    (h : Refusal g D' Over' rest d) (used : Tokens)
    (hf : ∀ (us vs : Tokens) (e : Diagnostic), us.kinds = used.kinds → vs.Like rest →
      g vs = .error e → ∃ e', f (us ++ vs) = .error e')
    (hD : ∀ ks b, D' ks b → Completes D (used.kinds ++ ks))
    (hover : ∀ ks t, ks.headD t = rest.next → (Over (used.kinds ++ ks) t ↔ Over' ks t)) :
    Refusal f D Over (used ++ rest) d := by
  have fails {pre post : Tokens} (hrest : rest = pre ++ post) (hg : FailsOn g pre.kinds post) :
      FailsOn f (Tokens.kinds (used ++ pre)) post := by
    intro us vs hus hvs
    obtain ⟨us, ws, rfl, hus, hws⟩ := kinds_eq_append_kinds hus
    obtain ⟨e, he⟩ := hg ws vs hws hvs
    rw [List.append_assoc]
    exact hf us (ws ++ vs) e hus (hrest ▸ .append hws hvs) he
  cases h with
  | exact pre post hts hd hfails hpre hclear =>
    refine .exact (used ++ pre) post (by rw [hts, List.append_assoc]) hd (fails hts hfails) ?_ ?_
    · rw [kinds_append]
      exact hpre.behind hD
    · rwa [kinds_append, hover _ _ (hts ▸ headD_kinds pre post)]
  | late pre mid post hts hd hne hlen hend hfails hpre hlate =>
    refine .late (used ++ pre) mid post (by rw [hts, List.append_assoc]) hd hne hlen hend
      (fails hts hfails) ?_ ?_
    · rw [kinds_append]
      exact hpre.behind hD
    · have hfirst : pre.kinds.headD mid.next = rest.next := by
        rw [headD_kinds, hts, ← List.append_assoc]
        exact (next_append (by simp [hne]) post).symm
      rwa [kinds_append, hover _ _ hfirst]

/-- A reader that begins with `g` and gives up where `g` does. -/
theorem Refusal.pass {f : Tokens → Except Diagnostic α} {g : Tokens → Except Diagnostic γ}
    {D : List Token → β → Prop} {D' : List Token → δ → Prop} {ts : Tokens} {d : Diagnostic}
    (h : Refusal g D' Over ts d)
    (hf : ∀ (vs : Tokens) (e : Diagnostic), vs.Like ts → g vs = .error e → ∃ e', f vs = .error e')
    (hD : ∀ ks b, D' ks b → Completes D ks) : Refusal f D Over ts d := by
  refine h.behind [] ?_ hD fun _ _ _ => Iff.rfl
  intro us vs e hus hvs he
  obtain rfl := List.map_eq_nil_iff.1 hus
  exact hf vs e hvs he

/-- The same with the next token in front of what `g` reads. -/
theorem Refusal.behind_next {f : Tokens → Except Diagnostic α} {g : Tokens → Except Diagnostic γ}
    {D : List Token → β → Prop} {D' : List Token → δ → Prop} {d : Diagnostic} {t : Token}
    (h : Refusal g D' Over' rest.skip d) (used : Tokens) (hnext : rest.next = t)
    (hend : t ≠ .endOfInput)
    (hf : ∀ (us vs : Tokens) (p : Position) (e : Diagnostic), us.kinds = used.kinds →
      vs.Like rest.skip → g vs = .error e → ∃ e', f (us ++ ⟨t, p⟩ :: vs) = .error e')
    (hD : ∀ ks b, D' ks b → Completes D (used.kinds ++ t :: ks))
    (hover : ∀ ks u, ks.headD u = rest.skip.next →
      (Over (used.kinds ++ t :: ks) u ↔ Over' ks u)) :
    Refusal f D Over (used ++ rest) d := by
  obtain ⟨p, hrest⟩ := eq_cons_of_next hnext hend
  rw [hrest, List.append_cons]
  refine h.behind (used ++ [⟨t, p⟩]) ?_ ?_ ?_
  · intro us vs e hus hvs he
    obtain ⟨us, ws, rfl, hfront, hlast⟩ := kinds_eq_append_kinds hus
    obtain ⟨q, rfl⟩ := kinds_eq_singleton hlast
    rw [List.append_assoc]
    exact hf us vs q e hfront hvs he
  · simpa using hD
  · simpa using hover

/-- What a reader does behind the tokens `used`, if it then only joins what `g` reads there. -/
theorem Settles.behind {f : Reader α} {g : Reader β} {D : List Token → α → Prop}
    {D' : List Token → β → Prop} (h : Settles g D' Over' rest) (used : Tokens) (join : β → α)
    (hf : ∀ us vs : Tokens, us.kinds = used.kinds → vs.Like rest →
      f (us ++ vs) = andThen g join vs)
    (hD : ∀ ks b, D' ks b → D (used.kinds ++ ks) (join b))
    (hover : ∀ ks t, ks.headD t = rest.next → (Over (used.kinds ++ ks) t ↔ Over' ks t)) :
    Settles f D Over (used ++ rest) := by
  rw [Settles, hf used rest rfl (.refl rest)]
  cases hread : g rest with
  | error d =>
    simp only [andThen, hread]
    refine (h.refusal hread).behind used ?_ (fun ks b hb => .of_derives (hD ks b hb)) hover
    intro us vs e hus hvs he
    exact ⟨e, by rw [hf us vs hus hvs, andThen, he]⟩
  | ok result =>
    obtain ⟨b, rest'⟩ := result
    simp only [andThen, hread]
    obtain ⟨mid, rfl, hmid⟩ := h.taken hread
    refine ⟨used ++ mid, (List.append_assoc ..).symm, ?_, ?_, ?_⟩
    · rw [kinds_append]
      exact hD _ _ hmid.derives
    · intro us vs hus hvs
      obtain ⟨us, ws, rfl, hus, hws⟩ := kinds_eq_append_kinds hus
      rw [List.append_assoc, hf us (ws ++ vs) hus (.append hws hvs), andThen,
        hmid.stays ws vs hws hvs]
    · rw [kinds_append, hover _ _ (headD_kinds mid rest')]
      exact hmid.clear

/-- The same with the next token in front of what `g` reads. -/
theorem Settles.behind_next {f : Reader α} {g : Reader β} {D : List Token → α → Prop}
    {D' : List Token → β → Prop} {t : Token} (h : Settles g D' Over' rest.skip) (used : Tokens)
    (hnext : rest.next = t) (hend : t ≠ .endOfInput) (join : β → α)
    (hf : ∀ (us vs : Tokens) (p : Position), us.kinds = used.kinds → vs.Like rest.skip →
      f (us ++ ⟨t, p⟩ :: vs) = andThen g join vs)
    (hD : ∀ ks b, D' ks b → D (used.kinds ++ t :: ks) (join b))
    (hover : ∀ ks u, ks.headD u = rest.skip.next →
      (Over (used.kinds ++ t :: ks) u ↔ Over' ks u)) :
    Settles f D Over (used ++ rest) := by
  obtain ⟨p, hrest⟩ := eq_cons_of_next hnext hend
  rw [hrest, List.append_cons]
  refine h.behind (used ++ [⟨t, p⟩]) join ?_ ?_ ?_
  · intro us vs hus hvs
    obtain ⟨us, ws, rfl, hfront, hlast⟩ := kinds_eq_append_kinds hus
    obtain ⟨q, rfl⟩ := kinds_eq_singleton hlast
    rw [List.append_assoc]
    exact hf us vs q hfront hvs
  · simpa using hD
  · simpa using hover

end Behind

theorem andThen_id (g : Reader α) (ts : Tokens) : andThen g (fun a => a) ts = g ts := by
  simp only [andThen]
  cases g ts <;> rfl

end Compliance
