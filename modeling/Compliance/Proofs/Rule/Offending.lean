import Compliance.Proofs.Refusal.Rule
import Compliance.Proofs.Token.Position

/-!
# Compliance.Proofs.Rule.Offending

Where the diagnostic of a text stands that is no rule.

* `IsAccepted`, `IsViable`  — the tokens of rules, and what they begin with.
* `IsOffending`             — the first token with which a text cannot become a rule any more.
* `LoneNot`                 — a `NOT` that only `IN` may follow.
* `Rule.offending_iff`      — when the diagnostic stands at the offending token, and where it
  stands otherwise.
-/

namespace Compliance

open Tokens

/-! ## Tokens that can become a rule -/

/-- The kinds of all tokens of a text that is a rule. -/
def IsAccepted (ks : List Token) : Prop :=
  ∃ (source : String) (ts : Tokens) (r : Rule),
    Token.scan source = .ok ts ∧ ts.kinds = ks ∧ Rule.parse source = .ok r

/-- Some rule begins with the tokens. -/
def IsViable (ks : List Token) : Prop := ∃ more, IsAccepted (ks ++ more)

/-- Behind the tokens `ks`, the token `t` is the first with which they cannot become a rule. -/
structure IsOffending (ks : List Token) (t : Token) : Prop where
  viable : IsViable ks
  not_viable : ¬ IsViable (ks ++ [t])

/-- The last token is a `NOT` that only `IN` may follow. -/
def LoneNot (ks : List Token) : Prop :=
  (∃ front, ks = front ++ [.word "NOT"]) ∧ ∀ u, IsViable (ks ++ [u]) → u = .word "IN"

theorem IsViable.of_append {ks more : List Token} (h : IsViable (ks ++ more)) : IsViable ks := by
  obtain ⟨rest, hrest⟩ := h
  exact ⟨more ++ rest, by rwa [← List.append_assoc]⟩

/-- At most one token of a text is the first with which it cannot become a rule. -/
theorem IsOffending.unique {ks ls us vs : List Token} {t u : Token} (h : IsOffending ks t)
    (h' : IsOffending ls u) (heq : ks ++ t :: us = ls ++ u :: vs) : ks = ls := by
  rcases List.append_eq_append_iff.1 heq with ⟨mid, rfl, hmid⟩ | ⟨mid, rfl, hmid⟩
  · cases mid with
    | nil => simp
    | cons x mid =>
      obtain ⟨rfl, -⟩ := List.cons.inj hmid
      have hviable := h'.viable
      rw [List.append_cons] at hviable
      exact absurd hviable.of_append h.not_viable
  · cases mid with
    | nil => simp
    | cons x mid =>
      obtain ⟨rfl, -⟩ := List.cons.inj hmid
      have hviable := h.viable
      rw [List.append_cons] at hviable
      exact absurd hviable.of_append h'.not_viable

theorem endOfInput_notMem_of_completes {ks : List Token} (h : Completes Rule.Derives ks) :
    .endOfInput ∉ ks := by
  obtain ⟨more, r, -, hr⟩ := h
  exact fun hmem => hr.endOfInput_notMem (List.mem_append_left _ hmem)

/-- What a rule begins with, in some text, goes on with a token other than `IN`. -/
theorem isViable_of_completes {source : String} {ts : Tokens} {ks ls : List Token}
    (hscan : Token.scan source = .ok ts) (hts : ts.kinds = ks ++ ls)
    (h : Completes Rule.Derives ks) : ∃ u, u ≠ .word "IN" ∧ IsViable (ks ++ [u]) := by
  have hend := endOfInput_notMem_of_completes h
  obtain ⟨more, r, hmore, hr⟩ := h
  simp only [goesOn, Bool.and_eq_true, bne_iff_ne] at hmore
  obtain ⟨hne, hplain⟩ := hmore
  obtain ⟨text, used, q, htext, hused⟩ := Token.exists_extension hscan hts hend hplain
  have haccepted : IsAccepted (ks ++ more ++ [.endOfInput]) := by
    refine ⟨text, _, r, htext, by rw [kinds_append, hused]; rfl, ?_⟩
    rw [← hused] at hr
    exact Rule.parse_of_derives htext hr
  cases more with
  | nil => exact ⟨.endOfInput, by simp, [], by simpa using haccepted⟩
  | cons u more =>
    refine ⟨u, ?_, more ++ [.endOfInput], by simpa using haccepted⟩
    rintro rfl
    exact hne rfl

/-- Tokens at which reading fails are accepted only if they go on with `NOT IN`, where reading
failed at a `NOT` alone. -/
theorem lone_of_isAccepted {pre : List Token} {post : Tokens} {more : List Token}
    (hfails : FailsOn Rule.read pre post) (h : IsAccepted (pre ++ post.next :: more)) :
    post.next = .word "NOT" ∧ post.skip.next ≠ .word "IN" ∧ more.head? = some (.word "IN") := by
  obtain ⟨source, ts, r, hscan, hts, hparse⟩ := h
  have hread : Rule.read ts = .ok r := by
    rwa [Rule.parse, hscan] at hparse
  obtain ⟨us, vs, rfl, hus, hvs⟩ := kinds_eq_append hts
  obtain ⟨p, vs, rfl, hmore⟩ := kinds_eq_cons hvs
  by_cases hlike : Tokens.Like (⟨post.next, p⟩ :: vs) post
  · obtain ⟨e, he⟩ := hfails us _ hus hlike
    rw [he] at hread
    cases hread
  · have hlone : ¬ (post.next = .word "NOT" → post.skip.next ≠ .word "IN" →
        vs.next ≠ .word "IN") := fun hlone => hlike ⟨rfl, hlone⟩
    simp only [Classical.not_imp, not_not] at hlone
    obtain ⟨hnot, hin, hnext⟩ := hlone
    obtain ⟨q, hcons⟩ := eq_cons_of_next hnext (by simp)
    exact ⟨hnot, hin, by rw [← hmore, hcons]; rfl⟩

/-! ## The place of the diagnostic -/

/-- Where the diagnostic `d` of the tokens `pre ++ t :: post` stands, whose offending token is `t`.
It stands there, except in two cases: at the `NOT` in front of `t` that lacks its `IN`, and up to
three tokens behind `t`, where an operand has been read that may not stand behind its gate. -/
structure Reports (pre : Tokens) (t : PlacedToken) (post : Tokens) (d : Diagnostic) : Prop where
  first : d.position = t.position ↔ ¬ LoneNot pre.kinds ∧ ¬ Overread pre.kinds t.token
  early : LoneNot pre.kinds →
    ∃ (front : Tokens) (u : PlacedToken), pre = front ++ [u] ∧ d.position = u.position
  late : Overread pre.kinds t.token →
    ∃ (mid : Tokens) (u : PlacedToken) (rest : Tokens), post = mid ++ u :: rest ∧
      List.length mid < 3 ∧ d.position = u.position

/-- Tokens up to the end of input go on behind those in front of it. -/
theorem exists_cons_of_endOfInput {pre post used : Tokens} {q : Position}
    (h : used ++ [⟨.endOfInput, q⟩] = pre ++ post) (hpre : .endOfInput ∉ pre.kinds) :
    ∃ t rest, post = t :: rest := by
  cases post with
  | nil =>
    refine absurd ?_ hpre
    rw [List.append_nil] at h
    simp [← h]
  | cons t rest => exact ⟨t, rest, rfl⟩

/-- The positions of two of the tokens, one behind the other. -/
theorem position_ne {pre mid rest : Tokens} {t u : PlacedToken}
    (h : (pre ++ t :: (mid ++ u :: rest)).Pairwise fun t u => t.position.Before u.position) :
    t.position ≠ u.position := by
  obtain ⟨hbehind, -⟩ := List.pairwise_cons.1 (List.pairwise_append.1 h).2.1
  exact (hbehind u (by simp)).ne

section Report

variable {ts used : Tokens} {q : Position} {d : Diagnostic}

/-- The tokens in front of the diagnostic can become a rule: it stands at the offending token, or
at a `NOT` in front of it. -/
theorem reports_of_exact {pre post : Tokens}
    (hend : used ++ [⟨.endOfInput, q⟩] = pre ++ post)
    (hordered : (pre ++ post).Pairwise fun t u => t.position.Before u.position)
    (hd : d.position = post.peek.position) (hfails : FailsOn Rule.read pre.kinds post)
    (hpre : Completes Rule.Derives pre.kinds) (hover : ¬ Overread pre.kinds post.next)
    (hmore : ∃ u, u ≠ .word "IN" ∧ IsViable (pre.kinds ++ [u])) :
    ∃ front t rest, pre ++ post = front ++ t :: rest ∧
      IsOffending front.kinds t.token ∧ Reports front t rest d := by
  have hfront := endOfInput_notMem_of_completes hpre
  obtain ⟨t, rest, rfl⟩ := exists_cons_of_endOfInput hend hfront
  by_cases hviable : IsViable (pre.kinds ++ [t.token])
  · -- reading failed at a `NOT` that could still be the first half of `NOT IN`
    have lone {more : List Token} (h : IsAccepted (pre.kinds ++ t.token :: more)) :
        t.token = .word "NOT" ∧ Tokens.next rest ≠ .word "IN" ∧
          more.head? = some (.word "IN") :=
      lone_of_isAccepted hfails h
    have hlast : pre.kinds ++ [t.token] = Tokens.kinds (pre ++ [t]) := by simp
    obtain ⟨more, hmore⟩ := hviable
    obtain ⟨hnot, hin, -⟩ := lone (by simpa using hmore)
    obtain ⟨u, rest, rfl⟩ : ∃ u us, rest = u :: us := by
      have hclosed : used ++ [⟨.endOfInput, q⟩] = (pre ++ [t]) ++ rest := by simpa using hend
      refine exists_cons_of_endOfInput hclosed ?_
      simpa [hnot] using hfront
    have only {v : Token} (hv : IsViable (Tokens.kinds (pre ++ [t]) ++ [v])) : v = .word "IN" := by
      obtain ⟨more, hv⟩ := hv
      have haccepted : IsAccepted (pre.kinds ++ t.token :: v :: more) := by simpa using hv
      simpa using (lone haccepted).2.2
    have hlone : LoneNot (Tokens.kinds (pre ++ [t])) :=
      ⟨⟨pre.kinds, by rw [← hlast, hnot]⟩, fun v => only⟩
    have hclear : ¬ Overread (Tokens.kinds (pre ++ [t])) u.token := by
      rw [← hlast, hnot, overread_behind_separator (by decide)]
      exact not_overread_nil _
    have hne : d.position ≠ u.position := by
      rw [hd]
      rw [← List.nil_append (u :: rest)] at hordered
      exact position_ne hordered
    refine ⟨pre ++ [t], u, rest, by simp, ⟨hlast ▸ ⟨more, hmore⟩, fun h => hin (only h)⟩, ?_⟩
    exact ⟨iff_of_false hne fun h => h.1 hlone, fun _ => ⟨pre, t, rfl, hd⟩,
      fun h => absurd h hclear⟩
  · obtain ⟨u, hne, hu⟩ := hmore
    have hlone : ¬ LoneNot pre.kinds := fun h => hne (h.2 u hu)
    exact ⟨pre, t, rest, rfl, ⟨hu.of_append, hviable⟩, iff_of_true hd ⟨hlone, hover⟩,
      fun h => absurd h hlone, fun h => absurd h hover⟩

/-- An operand has been read behind its gate: the diagnostic stands behind the offending token. -/
theorem reports_of_late {pre mid post : Tokens}
    (hend : used ++ [⟨.endOfInput, q⟩] = pre ++ (mid ++ post))
    (hordered : (pre ++ (mid ++ post)).Pairwise fun t u => t.position.Before u.position)
    (hd : d.position = post.peek.position) (hne : mid ≠ []) (hlen : List.length mid ≤ 3)
    (hmid : .endOfInput ∉ mid.kinds) (hfails : FailsOn Rule.read pre.kinds (mid ++ post))
    (hpre : Completes Rule.Derives pre.kinds) (hover : Overread pre.kinds mid.next)
    (hmore : ∃ u, u ≠ .word "IN" ∧ IsViable (pre.kinds ++ [u])) :
    ∃ front t rest, pre ++ (mid ++ post) = front ++ t :: rest ∧
      IsOffending front.kinds t.token ∧ Reports front t rest d := by
  have hfront := endOfInput_notMem_of_completes hpre
  obtain ⟨t, mid, rfl⟩ := List.exists_cons_of_ne_nil hne
  obtain ⟨u, rest, rfl⟩ : ∃ u us, post = u :: us := by
    have hclosed : used ++ [⟨.endOfInput, q⟩] = (pre ++ t :: mid) ++ post := by simpa using hend
    refine exists_cons_of_endOfInput hclosed ?_
    rw [kinds_append, List.mem_append]
    exact not_or_intro hfront hmid
  obtain ⟨v, hin, hv⟩ := hmore
  have hlone : ¬ LoneNot pre.kinds := fun h => hin (h.2 v hv)
  refine ⟨pre, t, mid ++ u :: rest, rfl, ⟨hv.of_append, ?_⟩, ?_⟩
  · rintro ⟨more, hmore⟩
    rw [← List.append_cons] at hmore
    obtain ⟨hnot, -⟩ := lone_of_isAccepted hfails hmore
    exact hover.ne_not hnot
  · have hbehind : d.position ≠ t.position := by
      rw [hd]
      exact (position_ne hordered).symm
    exact ⟨iff_of_false hbehind fun h => h.2 hover, fun h => absurd h hlone,
      fun _ => ⟨mid, u, rest, rfl, by simpa [Nat.lt_succ_iff] using hlen, hd⟩⟩

end Report

/-- A text that is no rule has an offending token, the first with which it cannot become a rule,
and the diagnostic stands there but for two cases. -/
theorem Rule.offending_iff {source : String} {ts : Tokens} {d : Diagnostic}
    (hscan : Token.scan source = .ok ts) (hparse : Rule.parse source = .error d) :
    ∃ (pre : Tokens) (t : PlacedToken) (post : Tokens), ts = pre ++ t :: post ∧
      IsOffending pre.kinds t.token ∧ Reports pre t post d := by
  have hread : Rule.read ts = .error d := by
    rwa [Rule.parse, hscan] at hparse
  have hordered := Token.pairwise_scan hscan
  obtain ⟨used, q, hend, -⟩ := Token.isLexeme_of_scanFrom hscan
  cases Rule.refusal hread with
  | exact pre post hts hd hfails hpre hover =>
    subst hts
    exact reports_of_exact hend.symm hordered hd hfails hpre hover
      (isViable_of_completes hscan (kinds_append _ _) hpre)
  | late pre mid post hts hd hne hlen hmid hfails hpre hover =>
    subst hts
    exact reports_of_late hend.symm hordered hd hne hlen hmid hfails hpre hover
      (isViable_of_completes hscan (kinds_append _ _) hpre)

/-- A span is due behind `WITHIN`. -/
theorem isOffending_soon :
    IsOffending [.word "WHEN", .word "x", .word "WITHIN"] (.text "soon") where
  viable :=
    ⟨_, "WHEN x WITHIN 5 MINUTES THEN MUST TRUE",
      [⟨.word "WHEN", ⟨1, 1⟩⟩, ⟨.word "x", ⟨1, 6⟩⟩, ⟨.word "WITHIN", ⟨1, 8⟩⟩,
        ⟨.number "5", ⟨1, 15⟩⟩, ⟨.word "MINUTES", ⟨1, 17⟩⟩, ⟨.word "THEN", ⟨1, 25⟩⟩,
        ⟨.word "MUST", ⟨1, 30⟩⟩, ⟨.word "TRUE", ⟨1, 35⟩⟩, ⟨.endOfInput, ⟨1, 39⟩⟩],
      ⟨.timeTest (.variable "x") .within (.span 5 .minutes), .consequence (.literal true)⟩,
      by decide +kernel, rfl, by decide +kernel⟩
  not_viable := by
    rintro ⟨more, source, ts, r, hscan, hts, hparse⟩
    have hread : Rule.read ts = .ok r := by
      rwa [Rule.parse, hscan] at hparse
    obtain ⟨_, ts, rfl, hx⟩ := kinds_eq_cons hts
    obtain ⟨_, ts, rfl, hwithin⟩ := kinds_eq_cons hx
    obtain ⟨_, ts, rfl, hsoon⟩ := kinds_eq_cons hwithin
    obtain ⟨_, ts, rfl, -⟩ := kinds_eq_cons hsoon
    cases hread

/-- The text behind `WITHIN` is read before it is refused: the diagnostic stands behind it. -/
theorem Rule.offending_iff_soon :
    ∃ (ts : Tokens) (d : Diagnostic),
      Token.scan "WHEN x WITHIN 'soon' THEN MUST TRUE" = .ok ts ∧
      Rule.parse "WHEN x WITHIN 'soon' THEN MUST TRUE" = .error d ∧ d.position = ⟨1, 22⟩ ∧
      ∃ (pre : Tokens) (t : PlacedToken) (post : Tokens), ts = pre ++ t :: post ∧
        IsOffending pre.kinds t.token ∧ Reports pre t post d ∧ t.position = ⟨1, 15⟩ := by
  have hscan : Token.scan "WHEN x WITHIN 'soon' THEN MUST TRUE" =
      .ok [⟨.word "WHEN", ⟨1, 1⟩⟩, ⟨.word "x", ⟨1, 6⟩⟩, ⟨.word "WITHIN", ⟨1, 8⟩⟩,
        ⟨.text "soon", ⟨1, 15⟩⟩, ⟨.word "THEN", ⟨1, 22⟩⟩, ⟨.word "MUST", ⟨1, 27⟩⟩,
        ⟨.word "TRUE", ⟨1, 32⟩⟩, ⟨.endOfInput, ⟨1, 36⟩⟩] := by decide +kernel
  have hparse : Rule.parse "WHEN x WITHIN 'soon' THEN MUST TRUE" =
      .error ⟨⟨1, 22⟩, .expectedSpan (.text "soon")⟩ := by decide +kernel
  obtain ⟨pre, t, post, hts, hoffending, hreports⟩ := Rule.offending_iff hscan hparse
  refine ⟨_, _, hscan, hparse, rfl, pre, t, post, hts, hoffending, hreports, ?_⟩
  have hkinds := congrArg Tokens.kinds hts
  rw [kinds_append, kinds_cons] at hkinds
  have hpre := hoffending.unique isOffending_soon hkinds.symm
  obtain ⟨_, pre, rfl, hx⟩ := kinds_eq_cons hpre
  obtain ⟨_, pre, rfl, hwithin⟩ := kinds_eq_cons hx
  obtain ⟨_, rfl⟩ := kinds_eq_singleton hwithin
  cases hts
  rfl

end Compliance
