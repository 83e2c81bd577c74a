import Compliance.Proofs.Refusal.Expression
import Compliance.Proofs.Refusal.Operand

/-!
# Compliance.Proofs.Refusal.Test

Where tests, conditions and consequences are refused.

* `TakesOperand`                — the tokens with an operand behind them, in both kinds of tests.
* `Condition.settles_readTest`, `Condition.settles_read`     — conditions.
* `Consequence.settles_readTest`, `Consequence.settles_read` — consequences.
-/

namespace Compliance

open Tokens

/-! ## Behind the first operand -/

section Behind

variable {α : Type} {f : Reader α} {tail : Operand → Reader α} {D : List Token → α → Prop}
  {used rest : Tokens} {left : Operand}

/-- Behind the first operand of a test, the token `t` takes a second one. -/
structure TakesOperand (tail : Operand → Reader α) (D : List Token → α → Prop) (t : Token)
    (join : Operand → Operand → α) : Prop where
  reads : ∀ (left : Operand) (p : Position) (vs : Tokens),
    tail left (⟨t, p⟩ :: vs) = andThen Operand.read (join left) vs
  derives : ∀ {l r : List Token} {left right : Operand}, Operand.Derives l left →
    Operand.Derives r right → D (l ++ t :: r) (join left right)
  ne_gateWord : ∀ w ∈ gateWords, t ≠ .word w
  ne_not : t ≠ .word "NOT"
  ne_end : t ≠ .endOfInput

theorem TakesOperand.of_comparison {t : Token} {op : Comparison}
    {join : Operand → Operand → α} (hop : Comparison.ofToken? t = some op)
    (reads : ∀ (left : Operand) (p : Position) (vs : Tokens),
      tail left (⟨t, p⟩ :: vs) = andThen Operand.read (join left) vs)
    (derives : ∀ {l r : List Token} {left right : Operand}, Operand.Derives l left →
      Operand.Derives r right → D (l ++ t :: r) (join left right)) :
    TakesOperand tail D t join where
  reads := reads
  derives := derives
  ne_gateWord w hw := by
    rintro rfl
    rw [Comparison.eq_like_of_word hop] at hw
    exact absurd hw (by decide)
  ne_not := by
    rintro rfl
    cases hop
  ne_end := by
    rintro rfl
    cases hop

theorem TakesOperand.of_word {w : String} (hw : w ∉ "NOT" :: gateWords)
    {join : Operand → Operand → α}
    (reads : ∀ (left : Operand) (p : Position) (vs : Tokens),
      tail left (⟨.word w, p⟩ :: vs) = andThen Operand.read (join left) vs)
    (derives : ∀ {l r : List Token} {left right : Operand}, Operand.Derives l left →
      Operand.Derives r right → D (l ++ .word w :: r) (join left right)) :
    TakesOperand tail D (.word w) join where
  reads := reads
  derives := derives
  ne_gateWord := by
    rintro v hv ⟨⟩
    exact hw (List.mem_cons_of_mem _ hv)
  ne_not := by
    rintro ⟨⟩
    exact hw List.mem_cons_self
  ne_end := by simp

theorem TakesOperand.settles {t : Token} {join : Operand → Operand → α}
    (h : TakesOperand tail D t join)
    (hused : Taken Operand.read Operand.Derives Overread used left rest)
    (hf : ∀ us vs : Tokens, us.kinds = used.kinds → vs.Like rest → f (us ++ vs) = tail left vs)
    (hnext : rest.next = t) : Settles f D Overread (used ++ rest) := by
  refine (Operand.settles rest.skip).behind_next used hnext h.ne_end (join left) ?_ ?_ ?_
  · intro us vs p hus _
    rw [hf us _ hus (.of_cons hnext h.ne_not p vs), h.reads]
  · intro ks v hv
    exact h.derives hused.derives hv
  · intro ks u _
    exact overread_behind_plain hused.derives.noReserved h.ne_gateWord

/-- Behind the first operand of a test, the word `w` takes a list. -/
theorem settles_in {join : List Operand → α}
    (hused : Taken Operand.read Operand.Derives Overread used left rest)
    (hf : ∀ us vs : Tokens, us.kinds = used.kinds → vs.Like rest → f (us ++ vs) = tail left vs)
    (htail : ∀ (p : Position) (vs : Tokens),
      tail left (⟨.word "IN", p⟩ :: vs) = andThen Operand.readList join vs)
    (hD : ∀ ms vs, Operand.ListDerives ms vs → D (used.kinds ++ .word "IN" :: ms) (join vs))
    (hnext : rest.next = .word "IN") : Settles f D Overread (used ++ rest) := by
  refine (Operand.settles_readList rest.skip).behind_next used hnext (by simp) join ?_ hD ?_
  · intro us vs p hus _
    rw [hf us _ hus (.of_cons hnext (by decide) p vs), htail]
  · intro ks u _
    exact overread_behind_plain hused.derives.noReserved (by decide)

theorem settles_notIn {join : List Operand → α}
    (hf : ∀ us vs : Tokens, us.kinds = used.kinds → vs.Like rest → f (us ++ vs) = tail left vs)
    (htail : ∀ (p q : Position) (vs : Tokens),
      tail left (⟨.word "NOT", p⟩ :: ⟨.word "IN", q⟩ :: vs) = andThen Operand.readList join vs)
    (hD : ∀ ms vs, Operand.ListDerives ms vs →
      D (used.kinds ++ .word "NOT" :: .word "IN" :: ms) (join vs))
    (hnot : rest.next = .word "NOT") (hin : rest.skip.next = .word "IN") :
    Settles f D Overread (used ++ rest) := by
  obtain ⟨p, hrest⟩ := eq_cons_of_next hnot (by simp)
  rw [hrest, List.append_cons]
  refine (Operand.settles_readList rest.skip.skip).behind_next (used ++ [⟨.word "NOT", p⟩]) hin
    (by simp) join ?_ ?_ ?_
  · intro us vs q hus _
    obtain ⟨us, ws, rfl, hfront, hlast⟩ := kinds_eq_append_kinds hus
    obtain ⟨p, rfl⟩ := kinds_eq_singleton hlast
    have hlike : Tokens.Like (⟨.word "NOT", p⟩ :: ⟨.word "IN", q⟩ :: vs) rest :=
      ⟨hnot.symm, fun _ hne => absurd hin hne⟩
    rw [List.append_assoc, ← htail p q vs]
    exact hf us _ hfront hlike
  · intro ms vs hvs
    simpa using hD ms vs hvs
  · intro ks u _
    rw [kinds_append, List.append_assoc]
    exact (overread_behind_separator (by decide)).trans
      (overread_behind_plain noReserved_nil (by decide))

end Behind

/-! ## Conditions -/

namespace Condition

/-- What may stand behind the first operand of a test. -/
inductive Tail (ts : Tokens) : Prop where
  | operand {t : Token} {join : Operand → Operand → Condition}
      (h : TakesOperand readTestBehind TestDerives t join) (hnext : ts.next = t)
  | membership (hnext : ts.next = .word "IN")
  | nonMembership (hnot : ts.next = .word "NOT") (hin : ts.skip.next = .word "IN")
  | within (hnext : ts.next = .word "WITHIN")
  | expires (hnext : ts.next = .word "EXPIRES")
  | bare (h : ∀ (left : Operand) (vs : Tokens), vs.Like ts →
      readTestBehind left vs = .ok (.truthiness left, vs))

theorem tail (ts : Tokens) : Tail ts := by
  cases hop : Comparison.ofToken? ts.next with
  | some op =>
    have h : TakesOperand readTestBehind TestDerives ts.next fun left => .comparison left op :=
      .of_comparison hop (fun _ _ _ => by simp only [readTestBehind, next_cons, skip_cons, hop])
        fun hl hr => .comparison hl hop hr
    exact .operand h rfl
  | none =>
    by_cases hin : ts.next = .word "IN"
    · exact .membership hin
    by_cases hcontains : ts.next = .word "CONTAINS"
    · have h : TakesOperand readTestBehind TestDerives (.word "CONTAINS")
          fun left => .textTest left .contains :=
        .of_word (by decide) (fun _ _ _ => rfl) fun hl hr => .textTest .contains hl hr
      exact .operand h hcontains
    by_cases hmatches : ts.next = .word "MATCHES"
    · have h : TakesOperand readTestBehind TestDerives (.word "MATCHES")
          fun left => .textTest left .matching :=
        .of_word (by decide) (fun _ _ _ => rfl) fun hl hr => .textTest .matching hl hr
      exact .operand h hmatches
    by_cases hbefore : ts.next = .word "BEFORE"
    · have h : TakesOperand readTestBehind TestDerives (.word "BEFORE")
          fun left => .timeTest left .before :=
        .of_word (by decide) (fun _ _ _ => rfl) fun hl hr => .before hl hr
      exact .operand h hbefore
    by_cases hafter : ts.next = .word "AFTER"
    · have h : TakesOperand readTestBehind TestDerives (.word "AFTER")
          fun left => .timeTest left .after :=
        .of_word (by decide) (fun _ _ _ => rfl) fun hl hr => .after hl hr
      exact .operand h hafter
    by_cases hwithin : ts.next = .word "WITHIN"
    · exact .within hwithin
    by_cases hexpires : ts.next = .word "EXPIRES"
    · exact .expires hexpires
    by_cases hlone : ts.next = .word "NOT" ∧ ts.skip.next = .word "IN"
    · exact .nonMembership hlone.1 hlone.2
    refine .bare fun left vs hvs => ?_
    simp only [readTestBehind, hvs.next, hop]
    split
    all_goals first | contradiction | skip
    · rename_i hnot
      have hne := hvs.lone hnot fun hskip => hlone ⟨hnot, hskip⟩
      simp [startsWith, hne]
    · rfl

theorem settles_expires {used rest : Tokens} {left : Operand}
    (hused : Taken Operand.read Operand.Derives Overread used left rest)
    (hf : ∀ us vs : Tokens, us.kinds = used.kinds → vs.Like rest →
      readTest (us ++ vs) = readTestBehind left vs)
    (hnext : rest.next = .word "EXPIRES") :
    Settles readTest TestDerives Overread (used ++ rest) := by
  have hplain := hused.derives.noReserved
  obtain ⟨p, hrest⟩ := eq_cons_of_next hnext (by simp)
  have hread {us vs : Tokens} (q : Position) (hus : us.kinds = used.kinds) :
      readTest (us ++ ⟨.word "EXPIRES", q⟩ :: vs) =
        readTestBehind left (⟨.word "EXPIRES", q⟩ :: vs) :=
    hf us _ hus (.of_cons hnext (by decide) q vs)
  rw [hrest, List.append_cons]
  by_cases hafter : rest.skip.next = .word "AFTER"
  · refine (Operand.settles_readSpan rest.skip.skip).behind_next
      (used ++ [⟨.word "EXPIRES", p⟩]) hafter (by simp) (timeTest left .expires) ?_ ?_ ?_
    · intro us vs q hus _
      obtain ⟨us, ws, rfl, hfront, hlast⟩ := kinds_eq_append_kinds hus
      obtain ⟨p, rfl⟩ := kinds_eq_singleton hlast
      rw [List.append_assoc]
      exact hread p hfront
    · intro ks v hv
      obtain ⟨amount, unit, rfl, hspan⟩ := Operand.eq_span_of_kept hv
      simpa using .expires hused.derives hspan
    · intro ks u _
      rw [kinds_append, List.append_assoc]
      exact overread_behind_expires hplain
  · have hstop {us vs : Tokens} (q : Position) (hus : us.kinds = used.kinds)
        (hvs : vs.next = rest.skip.next) :
        readTest (us ++ ⟨.word "EXPIRES", q⟩ :: vs) =
          vs.refuse (.expectedWord "AFTER" vs.next) := by
      rw [hread q hus, readTestBehind]
      simp only [next_cons, skip_cons, expectWord_of_ne (hvs ▸ hafter)]
      rfl
    have hwhole := hstop p rfl (rfl : rest.skip.next = rest.skip.next)
    rw [← List.append_cons, Settles, hwhole, List.append_cons]
    refine .exact (used ++ [⟨.word "EXPIRES", p⟩]) rest.skip rfl rfl ?_ ?_ ?_
    · intro us vs hus hvs
      obtain ⟨us, ws, rfl, hfront, hlast⟩ := kinds_eq_append_kinds hus
      obtain ⟨q, rfl⟩ := kinds_eq_singleton hlast
      rw [List.append_assoc]
      exact ⟨_, hstop q hfront hvs.next⟩
    · refine ⟨[.word "AFTER", .number "5", .word "MINUTES"],
        timeTest left .expires (.span 5 .minutes), by decide, ?_⟩
      simpa using .expires hused.derives Operand.derives_span
    · rw [kinds_append]
      exact not_overread_expires hplain

theorem settles_readTest (ts : Tokens) : Settles readTest TestDerives Overread ts := by
  cases hread : Operand.read ts with
  | error d =>
    have hwhole : readTest ts = .error d := by rw [readTest, hread]
    rw [Settles, hwhole]
    refine ((Operand.settles ts).refusal hread).pass ?_ ?_
    · intro vs e _ he
      exact ⟨e, by rw [readTest, he]⟩
    · intro ks v hv
      exact .of_derives (.truthiness hv)
  | ok result =>
    obtain ⟨left, rest⟩ := result
    obtain ⟨used, rfl, hused⟩ := (Operand.settles ts).taken hread
    have hf (us vs : Tokens) (hus : us.kinds = used.kinds) (hvs : vs.Like rest) :
        readTest (us ++ vs) = readTestBehind left vs := by
      rw [readTest, hused.stays us vs hus hvs]
    cases tail rest with
    | operand h hnext => exact h.settles hused hf hnext
    | membership hnext =>
      exact settles_in hused hf (fun _ _ => rfl) (fun ms vs => .membership hused.derives) hnext
    | nonMembership hnot hin =>
      exact settles_notIn hf (fun _ _ _ => rfl) (fun ms vs => .nonMembership hused.derives) hnot hin
    | within hnext =>
      refine (Operand.settles_readSpan rest.skip).behind_next used hnext (by simp)
        (.timeTest left .within) ?_ ?_ ?_
      · intro us vs p hus _
        rw [hf us _ hus (.of_cons hnext (by decide) p vs)]
        rfl
      · intro ks v hv
        obtain ⟨amount, unit, rfl, hspan⟩ := Operand.eq_span_of_kept hv
        exact .within hused.derives hspan
      · intro ks u _
        exact overread_behind_gate hused.derives.noReserved (by decide)
    | expires hnext => exact settles_expires hused hf hnext
    | bare h =>
      have hstop (us vs : Tokens) (hus : us.kinds = used.kinds) (hvs : vs.Like rest) :
          readTest (us ++ vs) = .ok (.truthiness left, vs) := by
        rw [hf us vs hus hvs, h left vs hvs]
      rw [Settles, hstop used rest rfl (.refl rest)]
      exact ⟨used, rfl, .truthiness hused.derives, hstop, hused.clear⟩

theorem settles_read (ts : Tokens) :
    Settles Condition.read (Condition.Derives .disjunction) Overread ts :=
  Connectives.settles_read Condition.agrees Condition.settles_readTest ts

end Condition

/-! ## Consequences -/

namespace Consequence

/-- What a first operand is that nothing follows. -/
def readAlone (left : Operand) : Reader Consequence := fun ts =>
  match left with
  | .bool b => .ok (.literal b, ts)
  | .variable path => .ok (.truthiness (.variable path), ts)
  | v => ts.refuse (.expectedConstraint v ts.next)

/-- What may stand behind the first operand of a demand. -/
inductive Tail (ts : Tokens) : Prop where
  | operand {t : Token} {join : Operand → Operand → Consequence}
      (h : TakesOperand readTestBehind TestDerives t join) (hnext : ts.next = t)
  | membership (hnext : ts.next = .word "IN")
  | nonMembership (hnot : ts.next = .word "NOT") (hin : ts.skip.next = .word "IN")
  | range (hnext : ts.next = .word "BETWEEN")
  | bare (h : ∀ (left : Operand) (vs : Tokens), vs.Like ts →
      readTestBehind left vs = readAlone left vs)

theorem tail (ts : Tokens) : Tail ts := by
  cases hop : Comparison.ofToken? ts.next with
  | some op =>
    have h : TakesOperand readTestBehind TestDerives ts.next fun left => .comparison left op :=
      .of_comparison hop (fun _ _ _ => by simp only [readTestBehind, next_cons, skip_cons, hop])
        fun hl hr => .comparison hl hop hr
    exact .operand h rfl
  | none =>
    by_cases hin : ts.next = .word "IN"
    · exact .membership hin
    by_cases hbetween : ts.next = .word "BETWEEN"
    · exact .range hbetween
    by_cases hlone : ts.next = .word "NOT" ∧ ts.skip.next = .word "IN"
    · exact .nonMembership hlone.1 hlone.2
    refine .bare fun left vs hvs => ?_
    have hboth : (vs.startsWith "NOT" && vs.skip.startsWith "IN") = false := by
      by_cases hnot : ts.next = .word "NOT"
      · have hne := hvs.lone hnot fun hskip => hlone ⟨hnot, hskip⟩
        simp [startsWith, hne]
      · simp [startsWith, hvs.next, hnot]
    have hin : vs.startsWith "IN" = false := by simpa [startsWith, hvs.next] using hin
    have hbetween : vs.startsWith "BETWEEN" = false := by
      simpa [startsWith, hvs.next] using hbetween
    simp only [readTestBehind, hvs.next, hop, hin, hbetween, hboth, Bool.false_eq_true, ↓reduceIte]
    cases left <;> simp only [readAlone, hvs.next]

/-! ## Ranges -/

/-- The two bounds of a range. -/
def RangeDerives (value : Operand) (ts : List Token) (c : Consequence) : Prop :=
  ∃ lo hi lower upper, ts = lo ++ .word "AND" :: hi ∧ Operand.Derives lo lower ∧
    Operand.Derives hi upper ∧ c = .range value lower upper

/-- Reads what follows the lower bound of a range. -/
def readUpper (value lower : Operand) (ts : Tokens) : Except Diagnostic (Consequence × Tokens) :=
  match ts.expectWord "AND" with
  | .error d => .error d
  | .ok rest => andThen Operand.read (.range value lower) rest

theorem readRange_eq (value : Operand) (ts : Tokens) :
    readRange value ts =
      match Operand.read ts with
      | .error d => .error d
      | .ok (lower, rest) => readUpper value lower rest :=
  rfl

theorem settles_readRange (value : Operand) (ts : Tokens) :
    Settles (readRange value) (RangeDerives value) Overread ts := by
  have hTRUE : Operand.Derives [.word "TRUE"] (.bool true) := .truth (by decide)
  cases hread : Operand.read ts with
  | error d =>
    have hwhole : readRange value ts = .error d := by rw [readRange, hread]
    rw [Settles, hwhole]
    refine ((Operand.settles ts).refusal hread).pass ?_ ?_
    · intro vs e _ he
      exact ⟨e, by rw [readRange, he]⟩
    · intro ks lower hlower
      exact ⟨[.word "AND", .word "TRUE"], .range value lower (.bool true), by decide, ks, _, lower,
        _, rfl, hlower, hTRUE, rfl⟩
  | ok result =>
    obtain ⟨lower, rest⟩ := result
    obtain ⟨used, rfl, hused⟩ := (Operand.settles ts).taken hread
    have hf (us vs : Tokens) (hus : us.kinds = used.kinds) (hvs : vs.Like rest) :
        readRange value (us ++ vs) = readUpper value lower vs := by
      rw [readRange_eq, hused.stays us vs hus hvs]
    by_cases hand : rest.next = .word "AND"
    · refine (Operand.settles rest.skip).behind_next used hand (by simp) (.range value lower)
        ?_ ?_ ?_
      · intro us vs p hus _
        rw [hf us _ hus (.of_cons hand (by decide) p vs), readUpper, expectWord_cons]
      · intro ks upper hupper
        exact ⟨used.kinds, ks, lower, upper, rfl, hused.derives, hupper, rfl⟩
      · intro ks u _
        exact overread_behind_separator (by decide)
    · have hstop (us vs : Tokens) (hus : us.kinds = used.kinds) (hvs : vs.Like rest) :
          readRange value (us ++ vs) = vs.refuse (.expectedWord "AND" vs.next) := by
        rw [hf us vs hus hvs, readUpper, expectWord_of_ne (hvs.next ▸ hand)]
        rfl
      rw [Settles, hstop used rest rfl (.refl rest)]
      refine .exact used rest rfl rfl (fun us vs hus hvs => ⟨_, hstop us vs hus hvs⟩) ?_ hused.clear
      exact ⟨[.word "AND", .word "TRUE"], .range value lower (.bool true), by decide, used.kinds, _,
        lower, _, rfl, hused.derives, hTRUE, rfl⟩

/-! ## Demands -/

theorem readPresence_eq (demand : Demand) (ts : Tokens) :
    readPresence demand ts =
      andThen (Operand.readWhere Operand.path? .demandNeedsVariable)
        (fun path => .presence (.variable path) demand) ts := by
  simp only [readPresence, andThen, Operand.readWhere]
  cases Operand.read ts with
  | error d => rfl
  | ok result =>
    obtain ⟨v, rest⟩ := result
    cases v <;> rfl

/-- Behind the word `w`, the name of a variable that has to be present. -/
theorem settles_presence {ts : Tokens} {w : String} {demand : Demand}
    (hnext : ts.next = .word w) (hw : w ∈ ["WITHIN", "REQUIRE", "RECOMMEND"])
    (hf : ∀ (p : Position) (vs : Tokens),
      readTest (⟨.word w, p⟩ :: vs) = readPresence demand vs)
    (hD : ∀ {l : List Token} {path : String}, Operand.Derives l (.variable path) →
      TestDerives (.word w :: l) (.presence (.variable path) demand)) :
    Settles readTest TestDerives Overread ts := by
  refine (Operand.settles_readPath .demandNeedsVariable ts.skip).behind_next [] hnext (by simp)
    (fun path => .presence (.variable path) demand) ?_ ?_ ?_
  · intro us vs p hus _
    obtain rfl := List.map_eq_nil_iff.1 hus
    rw [List.nil_append, hf, readPresence_eq]
  · intro ks path hpath
    exact hD (Operand.derives_of_path hpath)
  · intro ks u _
    exact overread_behind_gate noReserved_nil hw

/-- A demand that does not begin with a word for presence begins with an operand. -/
theorem readTest_of_ne {ts : Tokens} (hrequire : ts.next ≠ .word "REQUIRE")
    (hrecommend : ts.next ≠ .word "RECOMMEND") :
    readTest ts =
      match Operand.read ts with
      | .error d => .error d
      | .ok (left, rest) => readTestBehind left rest := by
  have hrequire : ts.startsWith "REQUIRE" = false := by simpa [startsWith] using hrequire
  have hrecommend : ts.startsWith "RECOMMEND" = false := by simpa [startsWith] using hrecommend
  rw [readTest, hrequire, hrecommend]
  rfl

theorem settles_readTest (ts : Tokens) : Settles readTest TestDerives Overread ts := by
  by_cases hrequire : ts.next = .word "REQUIRE"
  · exact settles_presence hrequire (by decide) (fun _ _ => rfl) .required
  by_cases hrecommend : ts.next = .word "RECOMMEND"
  · exact settles_presence hrecommend (by decide) (fun _ _ => rfl) .recommended
  have hTRUE : Operand.Derives [.word "TRUE"] (.bool true) := .truth (by decide)
  have hcompletes {ks : List Token} {v : Operand} (hv : Operand.Derives ks v) :
      Completes TestDerives ks :=
    ⟨[.equal, .word "TRUE"], .comparison v .equal (.bool true), by decide, .comparison hv rfl hTRUE⟩
  cases hread : Operand.read ts with
  | error d =>
    have hwhole : readTest ts = .error d := by rw [readTest_of_ne hrequire hrecommend, hread]
    rw [Settles, hwhole]
    refine ((Operand.settles ts).refusal hread).pass ?_ fun ks v => hcompletes
    intro vs e hvs he
    exact ⟨e, by rw [readTest_of_ne (hvs.next ▸ hrequire) (hvs.next ▸ hrecommend), he]⟩
  | ok result =>
    obtain ⟨left, rest⟩ := result
    obtain ⟨used, rfl, hused⟩ := (Operand.settles ts).taken hread
    have hf (us vs : Tokens) (hus : us.kinds = used.kinds) (hvs : vs.Like rest) :
        readTest (us ++ vs) = readTestBehind left vs := by
      have hnext : (us ++ vs).next = (used ++ rest).next := (hvs.append hus).next
      rw [readTest_of_ne (hnext ▸ hrequire) (hnext ▸ hrecommend), hused.stays us vs hus hvs]
    cases tail rest with
    | operand h hnext => exact h.settles hused hf hnext
    | membership hnext =>
      exact settles_in hused hf (fun _ _ => rfl) (fun ms vs => .membership hused.derives) hnext
    | nonMembership hnot hin =>
      exact settles_notIn hf (fun _ _ _ => rfl) (fun ms vs => .nonMembership hused.derives) hnot hin
    | range hnext =>
      refine (settles_readRange left rest.skip).behind_next used hnext (by simp)
        (fun c => c) ?_ ?_ ?_
      · intro us vs p hus _
        rw [hf us _ hus (.of_cons hnext (by decide) p vs), andThen_id]
        rfl
      · rintro ks c ⟨lo, hi, lower, upper, rfl, hlo, hhi, rfl⟩
        exact .range hused.derives hlo hhi
      · intro ks u _
        exact overread_behind_plain hused.derives.noReserved (by decide)
    | bare h =>
      have hstop (us vs : Tokens) (hus : us.kinds = used.kinds) (hvs : vs.Like rest) :
          readTest (us ++ vs) = readAlone left vs := by
        rw [hf us vs hus hvs, h left vs hvs]
      rw [Settles, hstop used rest rfl (.refl rest)]
      cases left with
      | bool b => exact ⟨used, rfl, .literal hused.derives, hstop, hused.clear⟩
      | «variable» path => exact ⟨used, rfl, .truthiness hused.derives, hstop, hused.clear⟩
      | _ =>
        exact .exact used rest rfl rfl (fun us vs hus hvs => ⟨_, hstop us vs hus hvs⟩)
          (hcompletes hused.derives) hused.clear

theorem settles_read (ts : Tokens) :
    Settles Consequence.read (Consequence.Derives .disjunction) Overread ts :=
  Connectives.settles_read Consequence.agrees Consequence.settles_readTest ts

end Consequence

end Compliance
