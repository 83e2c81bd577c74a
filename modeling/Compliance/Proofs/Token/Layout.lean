import Compliance.Proofs.Token.Boundary

/-!
# Compliance.Proofs.Token.Layout

White space and comments between tokens.

* `IsLayout`            — white space and complete comments.
* `Reads`               — a text that is some tokens with layout between and around them.
* `Reads.insert`        — layout can be added behind such a text.
* `Reads.scan`          — scanning reads the tokens, and goes on behind them.
* `exists_reads`        — every text that is scanned is one.
* `same_kinds_iff`      — when layout between two tokens changes nothing.
-/

namespace Compliance

open Tokens

namespace Token

/-- White space and comments, each with the line end behind it. -/
inductive IsLayout : List Char → Prop where
  | nil : IsLayout []
  | blank {c : Char} {cs : List Char} (hc : Text.isBlank c = true) (h : IsLayout cs) :
      IsLayout (c :: cs)
  | comment {note cs : List Char} (hnote : '\n' ∉ note) (h : IsLayout cs) :
      IsLayout ('-' :: '-' :: (note ++ '\n' :: cs))

/-- In front of `post`, the characters `pre` are the tokens, with white space and comments between
and around them. So `pre` ends where a lexeme begins or ends, or in the layout beside it. -/
inductive Reads : List Token → List Char → List Char → Prop where
  | done (post : List Char) : Reads [] [] post
  | blank {ts : List Token} {c : Char} {pre post : List Char} (hc : Text.isBlank c = true)
      (h : Reads ts pre post) : Reads ts (c :: pre) post
  | comment {ts : List Token} {note pre post : List Char} (hnote : '\n' ∉ note)
      (hend : ∀ d ds, pre ++ post = d :: ds → d = '\n') (h : Reads ts pre post) :
      Reads ts ('-' :: '-' :: (note ++ pre)) post
  | token {t : Token} {ts : List Token} {c : Char} {cs pre post : List Char}
      (ht : lexeme? c (cs ++ (pre ++ post)) = .ok (t, cs.length)) (h : Reads ts pre post) :
      Reads (t :: ts) (c :: (cs ++ pre)) post

/-! ## Layout -/

theorem dropWhile_note {note rest : List Char} (hnote : '\n' ∉ note)
    (hend : ∀ d ds, rest = d :: ds → d = '\n') :
    (note ++ rest).dropWhile (· != '\n') = rest := by
  have hall : ∀ c ∈ note, (c != '\n') = true := by
    intro c hc
    rw [bne_iff_ne]
    rintro rfl
    exact hnote hc
  rw [List.dropWhile_append_of_pos hall]
  cases rest with
  | nil => rfl
  | cons d ds => simp [hend d ds rfl]

theorem notMem_takeWhile_note (cs : List Char) : '\n' ∉ cs.takeWhile (· != '\n') := by
  intro hmem
  have hne := List.all_eq_true.1 List.all_takeWhile _ hmem
  simp at hne

theorem eq_of_startsComment {cs : List Char} (h : startsComment cs = true) :
    ∃ rest, cs = '-' :: '-' :: rest := by
  rw [startsComment.eq_def] at h
  split at h
  · exact ⟨_, rfl⟩
  · cases h

/-- Layout stays layout from the end of its first line on. -/
theorem IsLayout.dropWhile {cs : List Char} (h : IsLayout cs) :
    IsLayout (cs.dropWhile (· != '\n')) := by
  induction h with
  | nil => exact .nil
  | @blank c cs hc h ih =>
    rw [List.dropWhile_cons]
    split
    · exact ih
    · exact .blank hc h
  | @comment note cs hnote h ih =>
    have hdrop : (note ++ '\n' :: cs).dropWhile (· != '\n') = '\n' :: cs := by
      refine dropWhile_note hnote ?_
      rintro d ds ⟨⟩
      rfl
    rw [List.dropWhile_cons, if_pos (by decide), List.dropWhile_cons, if_pos (by decide), hdrop]
    exact .blank (by decide) h

theorem IsLayout.reads {cs : List Char} (h : IsLayout cs) (post : List Char) :
    Reads [] cs post := by
  induction h with
  | nil => exact .done post
  | blank hc _ ih => exact .blank hc ih
  | comment hnote _ ih =>
    refine .comment hnote ?_ (.blank (by decide) ih)
    rintro d ds ⟨⟩
    rfl

/-! ## Positions -/

theorem Reads.head_ne {ts : List Token} {c : Char} {pre post : List Char}
    (h : Reads ts (c :: pre) post) : c ≠ '.' := by
  cases h with
  | blank hc =>
    rintro rfl
    cases hc
  | comment => decide
  | token ht => exact (lexeme_of_lexeme? ht).head.2.1

/-- What begins behind the position may change, up to its first character. -/
theorem Reads.change {ts : List Token} {c : Char} {pre cs : List Char}
    (h : Reads ts pre (c :: cs)) (hc : c ≠ '.') (ds : List Char) : Reads ts pre (c :: ds) := by
  generalize hpost : c :: cs = post at h
  induction h with
  | done => exact .done _
  | blank hb _ ih => exact .blank hb (ih hpost)
  | @comment ts note pre post hnote hend h ih =>
    subst hpost
    refine .comment hnote ?_ (ih rfl)
    cases pre with
    | nil =>
      rintro d es ⟨⟩
      exact hend c cs rfl
    | cons d pre =>
      rintro e es ⟨⟩
      exact hend d _ rfl
  | @token t ts e es pre post ht h ih =>
    subst hpost
    refine .token (lexeme?_of_closesLike ht ?_) (ih rfl)
    cases pre with
    | nil => exact .same hc rfl _
    | cons d pre => exact .same h.head_ne rfl _

/-- Directly in front of `post`, `pre` ends with the lexeme of a token that takes a minus sign. -/
def EndsOpen (pre post : List Char) : Prop :=
  ∃ us front t c cs, pre = front ++ c :: cs ∧ Reads us front (c :: (cs ++ post)) ∧
    lexeme? c (cs ++ post) = .ok (t, cs.length) ∧ t.takesMinus = true

theorem EndsOpen.blank {b : Char} {pre post : List Char} (hb : Text.isBlank b = true)
    (h : EndsOpen pre post) : EndsOpen (b :: pre) post := by
  obtain ⟨us, front, t, c, cs, rfl, hfront, ht⟩ := h
  exact ⟨us, b :: front, t, c, cs, rfl, .blank hb hfront, ht⟩

theorem EndsOpen.comment {note pre post : List Char} (hnote : '\n' ∉ note)
    (hend : ∀ d ds, pre ++ post = d :: ds → d = '\n') (h : EndsOpen pre post) :
    EndsOpen ('-' :: '-' :: (note ++ pre)) post := by
  obtain ⟨us, front, t, c, cs, rfl, hfront, ht⟩ := h
  rw [List.append_assoc] at hend
  exact ⟨us, '-' :: '-' :: (note ++ front), t, c, cs, by simp, .comment hnote hend hfront, ht⟩

theorem EndsOpen.token {t : Token} {c : Char} {cs pre post : List Char}
    (ht : lexeme? c (cs ++ (pre ++ post)) = .ok (t, cs.length)) (h : EndsOpen pre post) :
    EndsOpen (c :: (cs ++ pre)) post := by
  obtain ⟨us, front, u, d, ds, rfl, hfront, hu⟩ := h
  rw [List.append_assoc] at ht
  exact ⟨t :: us, c :: (cs ++ front), u, d, ds, by simp, .token ht hfront, hu⟩

/-- Layout can be added at the end, unless it begins with a comment directly behind a token that
takes the first minus sign. -/
theorem Reads.insert {ts : List Token} {pre post filler : List Char} (h : Reads ts pre post)
    (hfiller : IsLayout filler)
    (hclear : startsComment filler = true → ¬ EndsOpen pre post) :
    Reads ts (pre ++ filler) post := by
  induction h with
  | done post => exact hfiller.reads post
  | blank hc _ ih => exact .blank hc (ih fun hs ho => hclear hs (ho.blank hc))
  | @comment ts note pre post hnote hend h ih =>
    cases pre with
    | cons d pre =>
      have hd := hend d _ rfl
      rw [List.cons_append, List.cons_append, List.append_assoc]
      refine .comment hnote ?_ (ih fun hs ho => hclear hs (ho.comment hnote hend))
      rintro e es ⟨⟩
      exact hd
    | nil =>
      -- the comment goes on up to the first line end of the layout, or to its own
      cases h with
      | done =>
        rw [List.append_nil, ← List.takeWhile_append_dropWhile (p := (· != '\n')) (l := filler),
          List.cons_append, List.cons_append, ← List.append_assoc]
        refine .comment ?_ ?_ (hfiller.dropWhile.reads post)
        · rw [List.mem_append, not_or]
          exact ⟨hnote, notMem_takeWhile_note filler⟩
        · cases hdrop : filler.dropWhile (· != '\n') with
          | nil => exact hend
          | cons d ds =>
            rintro e es ⟨⟩
            simpa using head_dropWhile d ds hdrop
  | @token t ts c cs pre post ht h ih =>
    have hmore := ih fun hs ho => hclear hs (ho.token ht)
    rw [List.cons_append, List.append_assoc]
    cases pre with
    | cons d pre => exact .token (lexeme?_of_closesLike ht (.same h.head_ne rfl _)) hmore
    | nil =>
      cases hfiller with
      | nil => exact .token ht hmore
      | blank hc _ => exact .token (lexeme?_of_closesLike ht (.blank hc _)) hmore
      | comment hnote _ =>
        refine .token (lexeme?_of_closesLike ht (.minus ?_ _)) hmore
        rw [← Bool.not_eq_true]
        intro hminus
        exact hclear rfl ⟨[], [], t, c, cs, by simp, .done _, ht, hminus⟩

/-! ## Scanning -/

theorem Reads.scan {ts : List Token} {pre post : List Char} (h : Reads ts pre post)
    (p : Position) : ∃ (used : Tokens) (q : Position), used.kinds = ts ∧
      scanFrom p (pre ++ post) = (scanFrom q post).map (used ++ ·) := by
  induction h generalizing p with
  | done post =>
    refine ⟨[], p, rfl, ?_⟩
    rw [List.nil_append]
    cases scanFrom p post <;> rfl
  | @blank ts c pre post hc _ ih =>
    obtain ⟨used, q, hused, hscan⟩ := ih (p.step c)
    have hminus : c ≠ '-' := by
      rintro rfl
      cases hc
    refine ⟨used, q, hused, ?_⟩
    rw [List.cons_append, scanFrom, startsComment_eq_false hminus, if_neg (by decide), if_pos hc,
      hscan]
  | @comment ts note pre post hnote hend _ ih =>
    have hdrop : ('-' :: (note ++ pre) ++ post).dropWhile (· != '\n') = pre ++ post := by
      rw [List.cons_append, List.dropWhile_cons, if_pos (by decide), List.append_assoc,
        dropWhile_note hnote hend]
    obtain ⟨used, q, hused, hscan⟩ :=
      ih ((p.step '-').behind (('-' :: (note ++ pre) ++ post).takeWhile (· != '\n')))
    refine ⟨used, q, hused, ?_⟩
    rw [List.cons_append, scanFrom, if_pos (by rfl), hdrop, hscan]
  | @token t ts c cs pre post ht _ ih =>
    obtain ⟨hblank, -, hcomment⟩ := (lexeme_of_lexeme? ht).head
    obtain ⟨used, q, rfl, hscan⟩ := ih ((p.step c).behind cs)
    refine ⟨⟨t, p⟩ :: used, q, rfl, ?_⟩
    rw [List.cons_append, List.append_assoc, scanFrom, hcomment, if_neg (by decide), hblank,
      if_neg (by decide), ht]
    simp only [List.take_left, List.drop_left, hscan]
    cases scanFrom q post <;> rfl

/-- The position where a text starts does not change its tokens. -/
theorem kinds_of_scanFrom {p : Position} {cs : List Char} {placed : Tokens}
    (h : scanFrom p cs = .ok placed) (q : Position) :
    ∃ placed' : Tokens, scanFrom q cs = .ok placed' ∧ placed'.kinds = placed.kinds := by
  induction p, cs using scanFrom.induct generalizing q placed with
  | case1 p =>
    rw [scanFrom] at h ⊢
    cases h
    exact ⟨_, rfl, rfl⟩
  | case2 p c cs hcomment ih =>
    rw [scanFrom, if_pos hcomment] at h ⊢
    exact ih h _
  | case3 p c cs hcomment hblank ih =>
    rw [scanFrom, if_neg hcomment, if_pos hblank] at h ⊢
    exact ih h _
  | case4 p c cs hcomment hblank fault hread =>
    rw [scanFrom, if_neg hcomment, if_neg hblank, hread] at h
    cases h
  | case5 p c cs hcomment hblank t n hread ih =>
    rw [scanFrom, if_neg hcomment, if_neg hblank, hread] at h ⊢
    obtain ⟨behind, hbehind, rfl⟩ := Except.map_eq_ok h
    obtain ⟨behind', hbehind', hkinds⟩ := ih hbehind ((q.step c).behind (cs.take n))
    refine ⟨⟨t, q⟩ :: behind', by simp only [hbehind']; rfl, ?_⟩
    rw [kinds_cons, kinds_cons, hkinds]

/-- Every text that is scanned is read as its tokens, up to its end. -/
theorem exists_reads {p : Position} {cs : List Char} {placed : Tokens}
    (h : scanFrom p cs = .ok placed) :
    ∃ ts, Reads ts cs [] ∧ placed.kinds = ts ++ [.endOfInput] := by
  induction p, cs using scanFrom.induct generalizing placed with
  | case1 p =>
    rw [scanFrom] at h
    cases h
    exact ⟨[], .done [], rfl⟩
  | case2 p c cs hcomment ih =>
    rw [scanFrom, if_pos hcomment] at h
    obtain ⟨ts, hreads, hkinds⟩ := ih h
    obtain ⟨rest, heq⟩ := eq_of_startsComment hcomment
    cases heq
    rw [List.dropWhile_cons, if_pos (by decide)] at hreads
    refine ⟨ts, ?_, hkinds⟩
    rw [← List.takeWhile_append_dropWhile (p := (· != '\n')) (l := rest)]
    refine .comment (notMem_takeWhile_note rest) ?_ hreads
    intro d ds hdrop
    rw [List.append_nil] at hdrop
    simpa using head_dropWhile d ds hdrop
  | case3 p c cs hcomment hblank ih =>
    rw [scanFrom, if_neg hcomment, if_pos hblank] at h
    obtain ⟨ts, hreads, hkinds⟩ := ih h
    exact ⟨ts, .blank hblank hreads, hkinds⟩
  | case4 p c cs hcomment hblank fault hread =>
    rw [scanFrom, if_neg hcomment, if_neg hblank, hread] at h
    cases h
  | case5 p c cs hcomment hblank t n hread ih =>
    rw [scanFrom, if_neg hcomment, if_neg hblank, hread] at h
    obtain ⟨behind, hbehind, rfl⟩ := Except.map_eq_ok h
    obtain ⟨ts, hreads, hkinds⟩ := ih hbehind
    refine ⟨t :: ts, ?_, by rw [kinds_cons, hkinds]; rfl⟩
    have hlen : (cs.take n).length = n := List.length_take_of_le (length_le_of_lexeme? hread)
    have ht : lexeme? c (cs.take n ++ (cs.drop n ++ [])) = .ok (t, (cs.take n).length) := by
      rw [List.append_nil, List.take_append_drop, hlen, hread]
    have htoken := hreads.token ht
    rwa [List.take_append_drop] at htoken

/-- What is scanned in front of a position and behind it. -/
theorem Reads.scan_ok {ts : List Token} {pre post : List Char} (h : Reads ts pre post)
    {p : Position} {placed : Tokens} (hscan : scanFrom p (pre ++ post) = .ok placed) :
    ∃ (q : Position) (behind : Tokens), scanFrom q post = .ok behind ∧
      placed.kinds = ts ++ behind.kinds := by
  obtain ⟨used, q, rfl, hused⟩ := h.scan p
  rw [hused] at hscan
  obtain ⟨behind, hbehind, rfl⟩ := Except.map_eq_ok hscan
  exact ⟨q, behind, hbehind, kinds_append _ _⟩

/-- Two texts that are read as the same tokens and go on alike have the same tokens. -/
theorem Reads.same_kinds {ts : List Token} {pre pre' post : List Char} (h : Reads ts pre post)
    (h' : Reads ts pre' post) {p : Position} {placed : Tokens}
    (hscan : scanFrom p (pre ++ post) = .ok placed) :
    ∃ placed' : Tokens, scanFrom p (pre' ++ post) = .ok placed' ∧
      placed'.kinds = placed.kinds := by
  obtain ⟨q, behind, hbehind, hplaced⟩ := h.scan_ok hscan
  obtain ⟨used, q', rfl, hused⟩ := h'.scan p
  obtain ⟨behind', hbehind', hkinds⟩ := kinds_of_scanFrom hbehind q'
  rw [hbehind'] at hused
  exact ⟨used ++ behind', hused, by rw [hplaced, kinds_append, hkinds]⟩

/-- What begins with a lexeme is scanned as its token. -/
theorem scanFrom_lexeme {t : Token} {c : Char} {cs rest : List Char} {q : Position}
    {placed : Tokens} (h : Lexeme c cs rest t) {rest' : List Char}
    (hscan : scanFrom q (c :: (cs ++ rest')) = .ok placed) :
    ∃ u n, lexeme? c (cs ++ rest') = .ok (u, n) ∧ ∃ more, placed.kinds = u :: more := by
  obtain ⟨hblank, -, hcomment⟩ := h.head
  rw [scanFrom, hcomment, if_neg (by decide), hblank, if_neg (by decide)] at hscan
  split at hscan
  · cases hscan
  · rename_i u n hread
    obtain ⟨more, -, rfl⟩ := Except.map_eq_ok hscan
    exact ⟨u, n, hread, Tokens.kinds more, kinds_cons _ _⟩

/-- Layout between two tokens leaves the tokens alone, unless it begins with a comment directly
behind a token that takes the first minus sign. -/
theorem same_kinds_iff {ts : List Token} {pre post filler : List Char} (h : Reads ts pre post)
    (hfiller : IsLayout filler) {p : Position} {placed : Tokens}
    (hscan : scanFrom p (pre ++ post) = .ok placed) :
    (∃ placed' : Tokens, scanFrom p (pre ++ (filler ++ post)) = .ok placed' ∧
      placed'.kinds = placed.kinds) ↔ ¬ (startsComment filler = true ∧ EndsOpen pre post) := by
  constructor
  · rintro ⟨placed', hscan', hkinds⟩ ⟨hs, us, front, t, c, cs, rfl, hfront, ht, hminus⟩
    obtain ⟨more, rfl⟩ := eq_of_startsComment hs
    have hlexeme := lexeme_of_lexeme? ht
    have hfront' := hfront.change hlexeme.head.2.1 (cs ++ ('-' :: '-' :: more ++ post))
    rw [List.append_assoc, List.cons_append] at hscan hscan'
    obtain ⟨q, behind, hbehind, hplaced⟩ := hfront.scan_ok hscan
    obtain ⟨q', behind', hbehind', hplaced'⟩ := hfront'.scan_ok hscan'
    obtain ⟨u, n, hu, vs, hvs⟩ := scanFrom_lexeme hlexeme hbehind
    obtain ⟨u', n', hu', vs', hvs'⟩ := scanFrom_lexeme hlexeme hbehind'
    rw [hplaced, hplaced', hvs, hvs', List.append_cancel_left_eq, List.cons.injEq] at hkinds
    obtain ⟨rfl, -⟩ := hkinds
    rw [ht] at hu
    cases hu
    exact lexeme?_ne_of_minus ht hminus _ hu'
  · intro hclear
    have hinsert := h.insert hfiller fun hs ho => hclear ⟨hs, ho⟩
    rw [← List.append_assoc]
    exact h.same_kinds hinsert hscan

end Token

end Compliance
