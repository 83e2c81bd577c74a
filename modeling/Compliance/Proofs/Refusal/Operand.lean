import Compliance.Proofs.Grammar.Unique
import Compliance.Proofs.Refusal.Overread

/-!
# Compliance.Proofs.Refusal.Operand

Where operands and lists are refused.

* `Operand.settles`            — operands. Their errors stand at the first wrong token.
* `Operand.settles_readList`   — lists, likewise.
* `Operand.readWhere`          — operands of one kind only: any operand is read, and then refused.
* `Operand.Mends`              — what such an operand begins with can be completed to one.
* `Operand.settles_readWhere`  — such an operand is read on, as far as any operand would go.
-/

namespace Compliance

open Tokens

namespace Operand

/-! ## Operands -/

/-- A name with a parenthesis behind it is a call or nothing. -/
theorem readWord_paren {w : String} {ts rest : Tokens} (hw : IsName w)
    (hparen : rest.next = .leftParen) :
    Operand.readWord w ts rest =
      if w.toList.contains '.' then rest.refuse (.dottedFunction w)
      else if rest.skip.next == .rightParen then .ok (.call w, rest.skip.skip)
      else rest.skip.refuse (.unclosedCall rest.skip.next) := by
  simp [Operand.readWord, hw.not_reserved, hw.not_true, hw.not_false, hw.not_null, hparen]

/-- A name that is read alone has no parenthesis behind it. -/
theorem next_ne_leftParen_of_readWord {w : String} {ts rest : Tokens} {v : Operand}
    (hw : IsName w) (h : Operand.readWord w ts rest = .ok (v, rest)) :
    rest.next ≠ .leftParen := by
  intro hparen
  rw [readWord_paren hw hparen] at h
  split at h
  · cases h
  · split at h
    · obtain ⟨-, hrest⟩ := Prod.mk.inj (Except.ok.inj h)
      obtain ⟨p, hcons⟩ := eq_cons_of_next hparen (by simp)
      have hlen := congrArg List.length hcons
      have hlen' := congrArg List.length hrest
      simp only [skip, List.length_cons, List.length_tail] at hlen hlen'
      omega
    · cases h

/-- Only reserved words are refused, and names with a parenthesis behind them. -/
theorem refused_of_readWord {w : String} {ts rest : Tokens} {d : Diagnostic}
    (h : Operand.readWord w ts rest = .error d) :
    isReserved w = true ∨ IsName w ∧ rest.next = .leftParen := by
  simp only [Operand.readWord] at h
  split at h
  · rename_i hr
    exact .inl hr
  · rename_i hr
    split at h
    · cases h
    · rename_i ht
      split at h
      · cases h
      · rename_i hf
        split at h
        · cases h
        · rename_i hn
          split at h
          · rename_i hparen
            exact .inr ⟨⟨by simpa using hr, by simpa using ht, by simpa using hf,
              by simpa using hn⟩, beq_iff_eq.1 hparen⟩
          · split at h <;> cases h

/-- What is read as an operand depends on the next token behind it only. -/
theorem read_stays {used rest us vs : Tokens} {v : Operand}
    (h : Operand.read (used ++ rest) = .ok (v, rest)) (hd : Operand.Derives used.kinds v)
    (hus : us.kinds = used.kinds) (hvs : vs.next = rest.next) :
    Operand.read (us ++ vs) = .ok (v, vs) := by
  generalize hks : used.kinds = ks at hd hus
  cases hd with
  | text s =>
    obtain ⟨p, rfl⟩ := kinds_eq_singleton hus
    rfl
  | number hd =>
    obtain ⟨p, rfl⟩ := kinds_eq_singleton hus
    obtain ⟨q, rfl⟩ := kinds_eq_singleton hks
    have hunit : nextUnit? vs = nextUnit? rest := by simp only [nextUnit?, hvs]
    simp only [Operand.read, Operand.readNumber, List.singleton_append, next_cons, skip_cons, hd,
      hunit] at h ⊢
    cases hnext : nextUnit? rest with
    | none => rfl
    | some unit =>
      simp only [hnext] at h
      split at h <;> cases h
  | span hd hu ha hf =>
    obtain ⟨p, ws, rfl, hws⟩ := kinds_eq_cons hus
    obtain ⟨q, rfl⟩ := kinds_eq_singleton hws
    have hfilter : (some _).filter Text.fitsInt64 = some _ := Option.filter_some_pos hf
    simp [Operand.read, Operand.readNumber, nextUnit?, hd, hu, ha, hfilter]
  | instant hi =>
    obtain ⟨p, rfl⟩ := kinds_eq_singleton hus
    simp [Operand.read, hi]
  | truth hw =>
    obtain ⟨p, rfl⟩ := kinds_eq_singleton hus
    exact readWord_bool true hw
  | falsity hw =>
    obtain ⟨p, rfl⟩ := kinds_eq_singleton hus
    exact readWord_bool false hw
  | null hw =>
    obtain ⟨p, rfl⟩ := kinds_eq_singleton hus
    exact readWord_null hw
  | call hw hd =>
    obtain ⟨p, ws, rfl, hws⟩ := kinds_eq_cons hus
    obtain ⟨q, xs, rfl, hxs⟩ := kinds_eq_cons hws
    obtain ⟨q', rfl⟩ := kinds_eq_singleton hxs
    exact readWord_call hw hd q q'
  | bareCall hw =>
    obtain ⟨p, rfl⟩ := kinds_eq_singleton hus
    obtain ⟨q, rfl⟩ := kinds_eq_singleton hks
    have hparen := next_ne_leftParen_of_readWord hw.isName h
    exact (readWord_name hw.isName (hvs ▸ hparen)).trans (if_pos hw)
  | «variable» hw hb =>
    obtain ⟨p, rfl⟩ := kinds_eq_singleton hus
    obtain ⟨q, rfl⟩ := kinds_eq_singleton hks
    have hparen := next_ne_leftParen_of_readWord hw h
    exact (readWord_name hw (hvs ▸ hparen)).trans (if_neg hb)

/-- An operand is refused where the tokens read so far can go on, but not with the next one. -/
theorem refusal_of_next (pre : Tokens) {post : Tokens} {d : Diagnostic}
    (hd : d.position = post.peek.position)
    (hfails : ∀ us vs : Tokens, us.kinds = pre.kinds → vs.next = post.next →
      ∃ e, Operand.read (us ++ vs) = .error e)
    (hpre : Completes Operand.Derives pre.kinds) :
    Refusal Operand.read Operand.Derives Overread (pre ++ post) d := by
  refine .exact pre post rfl hd (fun us vs hus hvs => hfails us vs hus hvs.next) hpre ?_
  obtain ⟨more, v, -, hv⟩ := hpre
  exact hv.noReserved.of_append_left.not_overread _

theorem completes_nil : Completes Operand.Derives [] :=
  ⟨[.word "TRUE"], .bool true, by decide, .truth (by decide)⟩

/-- A name alone is a variable, or a call without parentheses. -/
theorem completes_name {w : String} (hw : IsName w) : Completes Operand.Derives [.word w] := by
  by_cases hb : IsBareCall w
  · exact .of_derives (.bareCall hb)
  · exact .of_derives (.variable hw hb)

theorem refusal_readNumber {n : String} {p : Position} {rest : Tokens} {d : Diagnostic}
    (h : Operand.readNumber n (⟨.number n, p⟩ :: rest) rest = .error d) :
    Refusal Operand.read Operand.Derives Overread (⟨.number n, p⟩ :: rest) d := by
  simp only [Operand.readNumber] at h
  split at h
  · rename_i cause hcause
    cases h
    refine refusal_of_next [] rfl ?_ completes_nil
    intro us vs hus hvs
    obtain rfl := List.map_eq_nil_iff.1 hus
    obtain ⟨q, hvs⟩ := eq_cons_of_next hvs (by simp)
    rw [List.nil_append, hvs]
    simp [Operand.read, Operand.readNumber, hcause, refuse]
  · rename_i magnitude hmagnitude
    split at h
    · cases h
    · rename_i unit hunit
      split at h
      · rename_i hamount
        cases h
        refine refusal_of_next [⟨.number n, p⟩] rfl ?_ (.of_derives (.number hmagnitude))
        intro us vs hus hvs
        obtain ⟨q, rfl⟩ := kinds_eq_singleton hus
        have hunit : nextUnit? vs = some unit := by
          rw [← hunit]
          simp only [nextUnit?, hvs]
        simp [Operand.read, Operand.readNumber, hmagnitude, hunit, hamount, refuse]
      · cases h

theorem refusal_readWord {w : String} {p : Position} {rest : Tokens} {d : Diagnostic}
    (h : Operand.readWord w (⟨.word w, p⟩ :: rest) rest = .error d) :
    Refusal Operand.read Operand.Derives Overread (⟨.word w, p⟩ :: rest) d := by
  rcases refused_of_readWord h with hreserved | ⟨hname, hparen⟩
  · rw [Operand.readWord, if_pos hreserved] at h
    cases h
    refine refusal_of_next [] rfl ?_ completes_nil
    intro us vs hus hvs
    obtain rfl := List.map_eq_nil_iff.1 hus
    obtain ⟨q, hvs⟩ := eq_cons_of_next hvs (by simp)
    rw [List.nil_append, hvs]
    exact ⟨_, if_pos hreserved⟩
  · rw [readWord_paren hname hparen] at h
    split at h
    · rename_i hdot
      cases h
      refine refusal_of_next [⟨.word w, p⟩] rfl ?_ (completes_name hname)
      intro us vs hus hvs
      obtain ⟨q, rfl⟩ := kinds_eq_singleton hus
      exact ⟨_, (readWord_paren hname (hvs.trans hparen)).trans (if_pos hdot)⟩
    · rename_i hdot
      split at h
      · cases h
      · rename_i hclose
        cases h
        obtain ⟨q, hrest⟩ := eq_cons_of_next hparen (by simp)
        have hpre : Completes Operand.Derives [.word w, .leftParen] :=
          ⟨[.rightParen], .call w, by decide, .call hname (by simpa using hdot)⟩
        rw [hrest]
        refine refusal_of_next [⟨.word w, p⟩, ⟨.leftParen, q⟩] rfl ?_ hpre
        intro us vs hus hvs
        obtain ⟨q, ws, rfl, hws⟩ := kinds_eq_cons hus
        obtain ⟨r, rfl⟩ := kinds_eq_singleton hws
        have hvs : ¬ (vs.next == Token.rightParen) = true := by
          rw [hvs]
          exact hclose
        exact ⟨_, (readWord_paren hname rfl).trans ((if_neg hdot).trans (if_neg hvs))⟩

theorem settles (ts : Tokens) : Settles Operand.read Operand.Derives Overread ts := by
  cases hread : Operand.read ts with
  | ok result =>
    obtain ⟨v, rest⟩ := result
    obtain ⟨used, rfl, hd⟩ := derives_of_read hread
    rw [Settles, hread]
    exact ⟨used, rfl, hd, fun us vs hus hvs => read_stays hread hd hus hvs.next,
      hd.noReserved.not_overread _⟩
  | error d =>
    rw [Settles, hread]
    have first (hd : d.position = ts.peek.position)
        (hfails : ∀ vs : Tokens, vs.next = ts.next → ∃ e, Operand.read vs = .error e) :
        Refusal Operand.read Operand.Derives Overread ts d :=
      .first hd (fun vs hvs => hfails vs hvs.next) completes_nil (not_overread_nil _)
    have h := hread
    simp only [Operand.read] at h
    split at h
    · cases h
    · rename_i n hn
      obtain ⟨p, hts⟩ := eq_cons_of_next hn (by simp)
      rw [hts] at h ⊢
      exact refusal_readNumber h
    · rename_i t ht
      split at h
      · cases h
      · rename_i hnone
        cases h
        exact first rfl fun vs hvs => ⟨_, by simp [Operand.read, hvs, ht, hnone, refuse]; rfl⟩
    · rename_i w hw
      obtain ⟨p, hts⟩ := eq_cons_of_next hw (by simp)
      rw [hts] at h ⊢
      exact refusal_readWord h
    · rename_i htext hnumber hinstant hword
      cases h
      refine first rfl fun vs hvs => ?_
      simp only [Operand.read]
      split
      · rename_i s hs
        exact absurd (hvs ▸ hs) (htext s)
      · rename_i n hn
        exact absurd (hvs ▸ hn) (hnumber n)
      · rename_i t ht
        exact absurd (hvs ▸ ht) (hinstant t)
      · rename_i w hw
        exact absurd (hvs ▸ hw) (hword w)
      · exact ⟨_, rfl⟩

/-! ## Lists -/

theorem settles_items (ts : Tokens) : Settles items Operand.ItemsDerive Overread ts := by
  induction hn : ts.length using Nat.strongRecOn generalizing ts with
  | ind n ih =>
    cases hread : Operand.read ts with
    | error d =>
      have hitems : items ts = .error d := by rw [items_eq, hread]
      rw [Settles, hitems]
      refine ((Operand.settles ts).refusal hread).pass ?_ ?_
      · intro vs e _ he
        exact ⟨e, by rw [items_eq, he]⟩
      · intro ks v hv
        exact ⟨[.rightBracket], [v], by decide, .last hv⟩
    | ok result =>
      obtain ⟨v, rest⟩ := result
      have hshort := read_shortens hread
      obtain ⟨used, rfl, hused⟩ := (Operand.settles ts).taken hread
      have hplain := hused.derives.noReserved
      have hitems {us vs : Tokens} (hus : us.kinds = used.kinds) (hvs : vs.Like rest) :
          items (us ++ vs) = itemsBehind v vs := by
        rw [items_eq, hused.stays us vs hus hvs]
      by_cases hcomma : rest.next = .comma
      · have hskip := length_skip_lt hcomma (by simp)
        have hlt : List.length rest.skip < n := by omega
        refine (ih _ hlt rest.skip rfl).behind_next used hcomma (by simp) (v :: ·) ?_ ?_ ?_
        · intro us vs q hus _
          exact hitems hus (.of_cons hcomma (by simp) q vs)
        · intro ks vs hvs
          exact .more hused.derives hvs
        · intro ks u _
          exact overread_behind_plain hplain (by simp)
      · by_cases hclose : rest.next = .rightBracket
        · obtain ⟨p, hrest⟩ := eq_cons_of_next hclose (by simp)
          have hlist := Operand.ItemsDerive.last hused.derives
          rw [Settles, hitems rfl (.refl rest), itemsBehind, hclose]
          refine ⟨used ++ [⟨.rightBracket, p⟩], by rw [← List.append_cons, ← hrest], ?_⟩
          refine ⟨by simpa using hlist, ?_, ?_⟩
          · intro us vs hus _
            obtain ⟨us, ws, rfl, hfront, hlast⟩ := kinds_eq_append_kinds hus
            obtain ⟨q, rfl⟩ := kinds_eq_singleton hlast
            rw [List.append_assoc]
            exact hitems hfront (.of_cons hclose (by simp) q vs)
          · rw [kinds_append]
            exact hlist.noReserved.not_overread _
        · have hfails {us vs : Tokens} (hus : us.kinds = used.kinds) (hvs : vs.Like rest) :
              items (us ++ vs) = vs.refuse (.expectedListEnd vs.next) := by
            rw [hitems hus hvs, itemsBehind]
            split
            · rename_i hnext
              exact absurd (hvs.next.symm.trans hnext) hcomma
            · rename_i hnext
              exact absurd (hvs.next.symm.trans hnext) hclose
            · rfl
          rw [Settles, hfails rfl (.refl rest)]
          refine .exact used rest rfl rfl (fun us vs hus hvs => ⟨_, hfails hus hvs⟩) ?_ hused.clear
          exact ⟨[.rightBracket], [v], by decide, .last hused.derives⟩

theorem settles_readList (ts : Tokens) :
    Settles Operand.readList Operand.ListDerives Overread ts := by
  by_cases hopen : ts.next = .leftBracket
  · by_cases hclose : ts.skip.next = .rightBracket
    · obtain ⟨p, hts⟩ := eq_cons_of_next hopen (by simp)
      obtain ⟨q, hskip⟩ := eq_cons_of_next hclose (by simp)
      rw [hts, hskip]
      refine ⟨[⟨.leftBracket, p⟩, ⟨.rightBracket, q⟩], rfl, .none, ?_, ?_⟩
      · intro us vs hus _
        obtain ⟨p', ws, rfl, hws⟩ := kinds_eq_cons hus
        obtain ⟨q', rfl⟩ := kinds_eq_singleton hws
        rfl
      · exact Operand.ListDerives.none.noReserved.not_overread _
    · refine (settles_items ts.skip).behind_next [] hopen (by simp) (fun vs => vs) ?_ ?_ ?_
      · intro us vs q hus hvs
        obtain rfl := List.map_eq_nil_iff.1 hus
        rw [andThen_id]
        exact readList_cons q vs (hvs.next ▸ hclose)
      · intro ks vs hvs
        exact .some hvs
      · intro ks u _
        exact overread_behind_plain noReserved_nil (by simp)
  · have hfails {vs : Tokens} (hvs : vs.next = ts.next) :
        Operand.readList vs = vs.refuse (.expectedListStart vs.next) := by
      simp [Operand.readList, hvs, hopen]
    rw [Settles, hfails rfl]
    exact .first rfl (fun vs hvs => ⟨_, hfails hvs.next⟩)
      ⟨[.leftBracket, .rightBracket], [], by decide, .none⟩ (not_overread_nil _)

/-! ## Operands of one kind -/

/-- Reads an operand, and refuses it if `keep` does not take it. -/
def readWhere {α : Type} (keep : Operand → Option α) (fault : Operand → Fault) : Reader α :=
  fun ts =>
    match Operand.read ts with
    | .error d => .error d
    | .ok (v, rest) =>
      match keep v with
      | some a => .ok (a, rest)
      | none => rest.refuse (fault v)

/-- The tokens of an operand that `keep` takes. -/
def KeptDerives {α : Type} (keep : Operand → Option α) (ts : List Token) (a : α) : Prop :=
  ∃ v, Operand.Derives ts v ∧ keep v = some a

/-- An operand that goes on with the next token shows no more of what follows. -/
theorem like_of_derives {pre more : List Token} {ts : Tokens} {v : Operand}
    (hv : Operand.Derives (pre ++ ts.next :: more) v) :
    Tokens.Like (placed (ts.next :: more)) ts := by
  refine ⟨rfl, fun hnot => ?_⟩
  exact absurd (by simp [hnot]) (hv.noReserved.notMem (show isReserved "NOT" = true by decide))

theorem read_placed {pre more : List Token} {v : Operand} (hv : Operand.Derives (pre ++ more) v) :
    Operand.read (placed pre ++ placed more) = .ok (v, []) := by
  have hend : Tokens.EndsOperand [] := ⟨by simp [next, peek], rfl⟩
  have hread := read_of_derives hv (kinds_placed _) hend
  rwa [List.append_nil, placed_append] at hread

/-- No operand goes on with a token at which reading it fails. -/
theorem not_goes_of_failsOn {pre : List Token} {post : Tokens}
    (h : FailsOn Operand.read pre post) : ¬ Goes pre post.next := by
  rintro ⟨more, v, hv⟩
  obtain ⟨d, hd⟩ := h (placed pre) _ (kinds_placed pre) (like_of_derives hv)
  rw [read_placed hv] at hd
  cases hd

/-- An operand is read as far as it goes. -/
theorem not_goes_of_taken {used rest : Tokens} {v : Operand}
    (h : Taken Operand.read Operand.Derives Overread used v rest) :
    ¬ Goes used.kinds rest.next := by
  rintro ⟨more, v', hv⟩
  have hread := h.stays (placed used.kinds) _ (kinds_placed _) (like_of_derives hv)
  rw [read_placed hv] at hread
  cases hread

theorem takes_of_goes {us vs rest : Tokens} {v : Operand} (hgoes : Goes us.kinds vs.next)
    (hread : Operand.read (us ++ vs) = .ok (v, rest)) :
    ∃ more, Operand.Derives (us.kinds ++ vs.next :: more) v := by
  obtain ⟨used, hsplit, htaken⟩ := (Operand.settles _).taken hread
  have hstop := not_goes_of_taken htaken
  rcases List.append_eq_append_iff.1 hsplit with ⟨mid, rfl, rfl⟩ | ⟨mid, rfl, rfl⟩
  · cases mid with
    | nil => exact absurd (by simpa using hgoes) hstop
    | cons t mid => exact ⟨Tokens.kinds mid, by simpa using htaken.derives⟩
  · cases mid with
    | nil => exact absurd (by simpa using hgoes) hstop
    | cons t mid =>
      obtain ⟨more, v', hv⟩ := hgoes
      exact absurd ⟨Tokens.kinds mid ++ vs.next :: more, v', by simpa using hv⟩ hstop

/-- The place at which a property of longer and longer tokens is lost. -/
theorem exists_lost {P : Tokens → Prop} {ts : Tokens} (hnil : P []) (hts : ¬ P ts) :
    ∃ pre t mid, ts = pre ++ t :: mid ∧ P pre ∧ ¬ P (pre ++ [t]) := by
  induction ts generalizing P with
  | nil => exact absurd hnil hts
  | cons t ts ih =>
    by_cases ht : P [t]
    · obtain ⟨pre, u, mid, rfl, hpre, hlost⟩ := ih (P := fun us => P (t :: us)) ht hts
      exact ⟨t :: pre, u, mid, rfl, hpre, hlost⟩
    · exact ⟨[], t, ts, rfl, hnil, ht⟩

section Where

variable {α : Type} {keep : Operand → Option α} {fault : Operand → Fault}

theorem read_of_readWhere {ts rest : Tokens} {a : α}
    (h : readWhere keep fault ts = .ok (a, rest)) :
    ∃ v, Operand.read ts = .ok (v, rest) ∧ keep v = some a := by
  simp only [readWhere] at h
  split at h
  · cases h
  · rename_i v rest' hv
    split at h
    · rename_i b hb
      cases h
      exact ⟨v, hv, hb⟩
    · cases h

/-- What an operand that `keep` takes begins with can be completed to one with plain tokens. -/
def Mends (keep : Operand → Option α) : Prop :=
  ∀ (pre more : List Token) (v : Operand), Operand.Derives (pre ++ more) v →
    (keep v).isSome = true → Completes (KeptDerives keep) pre

/-- An operand that is read up to `post` and refused there. Nothing that `keep` takes begins so;
the first token that shows it lies up to three tokens in front. -/
theorem refusal_overread (hmends : Mends keep) {m post : Tokens} {d : Diagnostic}
    (hd : d.position = post.peek.position) (hv : Completes Operand.Derives m.kinds)
    (hm : ¬ Completes (KeptDerives keep) m.kinds) (hsome : Completes (KeptDerives keep) []) :
    Refusal (readWhere keep fault) (KeptDerives keep) (fun ks t => Goes ks t ∨ Overread ks t)
      (m ++ post) d := by
  obtain ⟨pre, t, mid, rfl, hpre, hlost⟩ :=
    exists_lost (P := fun us => Completes (KeptDerives keep) us.kinds) hsome hm
  obtain ⟨more, v, -, hv⟩ := hv
  have hgoes : Goes pre.kinds t.token := ⟨Tokens.kinds mid ++ more, v, by simpa using hv⟩
  refine .late pre (t :: mid) post (by simp) hd (by simp) ?_ ?_ ?_ hpre (.inl hgoes)
  · have hlen := hv.length_le
    simp only [kinds_append, List.length_append, length_kinds] at hlen
    omega
  · intro hend
    have hnone := hv.noDelimiter.notMem (t := .endOfInput) rfl
    simp_all
  · intro us vs hus hvs
    cases hread : readWhere keep fault (us ++ vs) with
    | error e => exact ⟨e, rfl⟩
    | ok result =>
      obtain ⟨a, rest⟩ := result
      obtain ⟨v, hv, hkeep⟩ := read_of_readWhere hread
      have hnext : vs.next = t.token := hvs.next
      obtain ⟨more, htaken⟩ := takes_of_goes (by rwa [hus, hnext]) hv
      rw [hus, hnext] at htaken
      exact absurd (hmends _ more v (by simpa using htaken) (by simp [hkeep])) hlost

/-- An operand that `keep` has to take, where there is one. -/
theorem settles_readWhere (hmends : Mends keep) {ks : List Token} {a : α}
    (ha : KeptDerives keep ks a) (ts : Tokens) :
    Settles (readWhere keep fault) (KeptDerives keep) (fun ks t => Goes ks t ∨ Overread ks t)
      ts := by
  have hsome : Completes (KeptDerives keep) [] := by
    obtain ⟨v, hv, hkeep⟩ := ha
    exact hmends [] ks v hv (by simp [hkeep])
  cases hread : Operand.read ts with
  | error d =>
    have heq : readWhere keep fault ts = .error d := by rw [readWhere, hread]
    rw [Settles, heq]
    cases (Operand.settles ts).refusal hread with
    | exact pre post hts hd hfails hpre hclear =>
      rw [hts]
      by_cases hkept : Completes (KeptDerives keep) pre.kinds
      · refine .exact pre post rfl hd ?_ hkept (not_or.2 ⟨not_goes_of_failsOn hfails, hclear⟩)
        intro us vs hus hvs
        obtain ⟨e, he⟩ := hfails us vs hus hvs
        exact ⟨e, by rw [readWhere, he]⟩
      · exact refusal_overread hmends hd hpre hkept hsome
    | late pre mid post hts hd hne hlen hend hfails hpre hlate =>
      obtain ⟨more, v, -, hv⟩ := hpre
      exact absurd hlate (hv.noReserved.of_append_left.not_overread _)
  | ok result =>
    obtain ⟨v, rest⟩ := result
    obtain ⟨used, rfl, hused⟩ := (Operand.settles ts).taken hread
    have hstays {us vs : Tokens} (hus : us.kinds = used.kinds) (hvs : vs.Like rest) :
        readWhere keep fault (us ++ vs) =
          match keep v with
          | some a => .ok (a, vs)
          | none => vs.refuse (fault v) := by
      rw [readWhere, hused.stays us vs hus hvs]
    have hclear := not_or.2 ⟨not_goes_of_taken hused, hused.clear⟩
    cases hkeep : keep v with
    | some a =>
      simp only [hkeep] at hstays
      rw [Settles, hstays rfl (.refl rest)]
      exact ⟨used, rfl, ⟨v, hused.derives, hkeep⟩, fun us vs => hstays, hclear⟩
    | none =>
      simp only [hkeep] at hstays
      rw [Settles, hstays rfl (.refl rest)]
      by_cases hkept : Completes (KeptDerives keep) used.kinds
      · exact .exact used rest rfl rfl (fun us vs hus hvs => ⟨_, hstays hus hvs⟩) hkept hclear
      · exact refusal_overread hmends rfl (.of_derives hused.derives) hkept hsome

end Where

/-! ## Spans and variables -/

def span? : Operand → Option Operand
  | .span amount unit => some (.span amount unit)
  | _ => none

theorem readSpan_eq : Operand.readSpan = readWhere span? .expectedSpan := by
  funext ts
  simp only [Operand.readSpan, readWhere]
  cases Operand.read ts with
  | error d => rfl
  | ok result =>
    obtain ⟨v, rest⟩ := result
    cases v <;> rfl

/-- A span is written as a number with a unit behind it. -/
theorem Derives.eq_magnitude {ts : List Token} {amount : Int} {unit : SpanUnit}
    (h : Operand.Derives ts (.span amount unit)) :
    ∃ n w d, ts = [.number n, .word w] ∧ Decimal.ofPlain? n.toList = .ok d ∧
      SpanUnit.ofKeyword? w = some unit ∧ Text.intOfText? n.toList = some amount ∧
      Text.fitsInt64 amount = true := by
  generalize hv : Operand.span amount unit = v at h
  cases h with
  | text s =>
    rcases Operand.ofQuoted_eq s with ⟨t, -, h⟩ | h <;> rw [h] at hv <;> cases hv
  | span hd hu ha hf =>
    cases hv
    exact ⟨_, _, _, rfl, hd, hu, ha, hf⟩
  | _ => cases hv

theorem derives_span : Operand.Derives [.number "5", .word "MINUTES"] (.span 5 .minutes) :=
  .span (show Decimal.ofPlain? "5".toList = .ok _ from rfl) rfl (by decide) (by decide)

theorem mends_span : Mends span? := by
  intro pre more v hv hkeep
  cases v with
  | span amount unit =>
    obtain ⟨n, w, d, hts, hd, hu, ha, hf⟩ := hv.eq_magnitude
    match pre with
    | [] => exact ⟨[.number "5", .word "MINUTES"], _, by decide, _, derives_span, rfl⟩
    | [t] =>
      obtain ⟨rfl, -⟩ := List.cons.inj hts
      exact ⟨[.word "MINUTES"], _, by decide, _, .span hd rfl ha hf, rfl⟩
    | [t, u] =>
      obtain ⟨rfl, htail⟩ := List.cons.inj hts
      obtain ⟨rfl, -⟩ := List.cons.inj htail
      exact .of_derives ⟨_, .span hd hu ha hf, rfl⟩
    | t :: u :: x :: pre => simp at hts
  | _ => cases hkeep

theorem settles_readSpan (ts : Tokens) :
    Settles Operand.readSpan (KeptDerives span?) (fun ks t => Goes ks t ∨ Overread ks t) ts := by
  rw [readSpan_eq]
  exact settles_readWhere mends_span ⟨_, derives_span, rfl⟩ ts

theorem eq_span_of_kept {ks : List Token} {v : Operand} (h : KeptDerives span? ks v) :
    ∃ amount unit, v = .span amount unit ∧ Operand.Derives ks (.span amount unit) := by
  obtain ⟨v', hv, hkeep⟩ := h
  cases v' with
  | span amount unit =>
    cases hkeep
    exact ⟨amount, unit, rfl, hv⟩
  | _ => cases hkeep

theorem derives_x : Operand.Derives [.word "x"] (.variable "x") :=
  .variable ⟨by decide, by decide, by decide, by decide⟩ (by simp [IsBareCall])

theorem mends_path : Mends Operand.path? := by
  intro pre more v hv hkeep
  cases v with
  | «variable» path =>
    obtain ⟨hts, hw, hb⟩ := hv.eq_path
    match pre with
    | [] => exact ⟨[.word "x"], "x", by decide, _, derives_x, rfl⟩
    | [t] =>
      obtain ⟨rfl, -⟩ := List.cons.inj hts
      exact .of_derives ⟨_, .variable hw hb, rfl⟩
    | t :: u :: pre => simp at hts
  | _ => cases hkeep

theorem settles_readPath (fault : Operand → Fault) (ts : Tokens) :
    Settles (readWhere Operand.path? fault) (KeptDerives Operand.path?)
      (fun ks t => Goes ks t ∨ Overread ks t) ts :=
  settles_readWhere mends_path ⟨_, derives_x, rfl⟩ ts

theorem derives_of_path {ks : List Token} {path : String} (h : KeptDerives Operand.path? ks path) :
    Operand.Derives ks (.variable path) := by
  obtain ⟨v, hv, hkeep⟩ := h
  cases v with
  | «variable» p =>
    cases hkeep
    exact hv
  | _ => cases hkeep

end Operand

end Compliance
