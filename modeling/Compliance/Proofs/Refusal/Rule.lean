import Compliance.Proofs.Grammar.Acceptance
import Compliance.Proofs.Refusal.Test

/-!
# Compliance.Proofs.Refusal.Rule

Where actions, bodies and rules are refused.

* `Action.settles_readLabel`  — labels.
* `Action.settles_read`       — actions, behind their verb.
* `Rule.Body.settles_read`    — bodies.
* `Rule.refusal`              — whole rules.
-/

namespace Compliance

open Tokens

/-! ## Actions -/

namespace Action

/-- What an action consists of behind its verb `w`. -/
def TargetDerives (w : String) (ts : List Token) (a : Action) : Prop :=
  Action.Derives (.word w :: ts) a

theorem read_eq (verb : Verb) (ts : Tokens) :
    Action.read verb ts =
      match Operand.readWhere Operand.path? (.targetNeedsVariable verb) ts with
      | .error d => .error d
      | .ok (path, rest) => andThen (readLabel verb) (⟨verb, .variable path, ·⟩) rest := by
  simp only [Action.read, Operand.readWhere]
  cases Operand.read ts with
  | error d => rfl
  | ok result =>
    obtain ⟨v, rest⟩ := result
    cases v <;> rfl

/-- The label that a token writes. -/
def label? : Token → Option String
  | .word w => if isReserved w then none else some w
  | .text s => some s
  | _ => none

theorem readLabel_eq (verb : Verb) (ts : Tokens) :
    readLabel verb ts =
      match label? ts.next with
      | some label => .ok (label, ts.skip)
      | none => ts.refuse (.expectedLabel verb ts.next) := by
  simp only [readLabel, label?]
  cases ts.next with
  | word w => cases hr : isReserved w <;> simp [hr]
  | _ => rfl

theorem label_cases {t : Token} {label : String} (h : label? t = some label) :
    (t = .word label ∧ isReserved label = false) ∨ t = .text label := by
  cases t with
  | word w =>
    simp only [label?] at h
    split at h
    · cases h
    · rename_i hr
      cases h
      exact .inl ⟨rfl, by simpa using hr⟩
  | text s =>
    cases h
    exact .inr rfl
  | _ => cases h

/-- A label is a single token. -/
def LabelDerives (ts : List Token) (label : String) : Prop :=
  ∃ t, ts = [t] ∧ label? t = some label

theorem settles_readLabel (verb : Verb) {Over : List Token → Token → Prop} {ts : Tokens}
    (hclear : ¬ Over [] ts.next)
    (hlabel : ∀ {t u : Token} {label : String}, label? t = some label → ¬ Over [t] u) :
    Settles (readLabel verb) LabelDerives Over ts := by
  cases h : label? ts.next with
  | some label =>
    have hend : ts.next ≠ .endOfInput := by
      intro hend
      rw [hend] at h
      cases h
    obtain ⟨p, hts⟩ := eq_cons_of_next rfl hend
    have hwhole : readLabel verb ts = .ok (label, ts.skip) := by rw [readLabel_eq, h]
    rw [Settles, hwhole]
    refine ⟨[⟨ts.next, p⟩], hts, ⟨ts.next, rfl, h⟩, ?_, hlabel h⟩
    intro us vs hus _
    obtain ⟨q, rfl⟩ := kinds_eq_singleton hus
    rw [List.singleton_append, readLabel_eq, next_cons, h, skip_cons]
  | none =>
    have hstop {vs : Tokens} (hvs : vs.next = ts.next) :
        readLabel verb vs = vs.refuse (.expectedLabel verb vs.next) := by
      rw [readLabel_eq, hvs, h]
    rw [Settles, hstop rfl]
    exact .first rfl (fun vs hvs => ⟨_, hstop hvs.next⟩)
      ⟨[.word "x"], "x", by decide, .word "x", rfl, by decide⟩ hclear

/-- A token behind a single word goes on with an operand if it opens a call. -/
theorem eq_leftParen_of_goes {path : String} {u t : Token} (h : Goes [.word path, u] t) :
    u = .leftParen := by
  obtain ⟨more, v, hv⟩ := h
  generalize hts : [Token.word path, u] ++ t :: more = ts at hv
  cases hv <;> simp_all

/-- No operand goes on behind a variable and a label. -/
theorem not_over_label {path label : String} {t u : Token} (hpath : isReserved path = false)
    (h : label? t = some label) : ¬ (Goes [.word path, t] u ∨ Overread [.word path, t] u) := by
  have hword := noReserved_word hpath
  rintro (hgoes | hover)
  · rcases label_cases h with ⟨rfl, -⟩ | rfl <;> cases eq_leftParen_of_goes hgoes
  · have hplain : NoReserved [t] := by
      rcases label_cases h with ⟨rfl, hr⟩ | rfl
      · exact noReserved_word hr
      · exact noReserved_cons (by simp) noReserved_nil
    exact ((noReserved_append [_] [t]).2 ⟨hword, hplain⟩).not_overread u hover

theorem settles_read {w : String} {verb : Verb} (hv : Verb.ofKeyword? w = some verb) (ts : Tokens) :
    Settles (Action.read verb) (TargetDerives w) (fun ks t => Goes ks t ∨ Overread ks t) ts := by
  have hpath := Operand.settles_readPath (.targetNeedsVariable verb) ts
  cases hread : Operand.readWhere Operand.path? (.targetNeedsVariable verb) ts with
  | error d =>
    have hwhole : Action.read verb ts = .error d := by rw [read_eq, hread]
    rw [Settles, hwhole]
    refine (hpath.refusal hread).pass ?_ ?_
    · intro vs e _ he
      exact ⟨e, by rw [read_eq, he]⟩
    · intro ks path hks
      exact ⟨[.word "x"], _, by decide, .word hv (Operand.derives_of_path hks) (by decide)⟩
  | ok result =>
    obtain ⟨path, rest⟩ := result
    obtain ⟨used, rfl, hused⟩ := hpath.taken hread
    have htarget := Operand.derives_of_path hused.derives
    obtain ⟨hkinds, hname, -⟩ := htarget.eq_path
    have hclear := hused.clear
    rw [hkinds] at hclear htarget
    have hlabel : Settles (readLabel verb) LabelDerives
        (fun ks t => Goes (.word path :: ks) t ∨ Overread (.word path :: ks) t) rest :=
      settles_readLabel verb hclear (not_over_label hname.not_reserved)
    refine hlabel.behind used (⟨verb, .variable path, ·⟩) ?_ ?_ ?_
    · intro us vs hus hvs
      rw [read_eq, hused.stays us vs hus hvs]
    · rintro ks label ⟨t, rfl, ht⟩
      rw [hkinds]
      rcases label_cases ht with ⟨rfl, hr⟩ | rfl
      · exact .word hv htarget hr
      · exact .text hv htarget
    · intro ks t _
      rw [hkinds]
      exact Iff.rfl

end Action

/-! ## Bodies -/

theorem Verb.derives_variable {w : String} {verb : Verb} (h : Verb.ofKeyword? w = some verb) :
    Operand.Derives [.word w] (.variable w) := by
  have hname : IsName w ∧ ¬ (w = "NOW" ∨ w = "TODAY") := by
    simp only [Verb.ofKeyword?] at h
    split at h
    case h_6 => cases h
    all_goals exact ⟨⟨by decide, by decide, by decide, by decide⟩, by decide⟩
  exact .variable hname.1 hname.2

theorem Consequence.derives_variable {w path : String}
    (h : Operand.Derives [.word w] (.variable path)) :
    Consequence.Derives .disjunction [.word w] (.truthiness (.variable path)) :=
  .disjunct (.conjunct (.test (.truthiness h)))

theorem isSome_nextVerb (ts : Tokens) :
    (nextVerb? ts).isSome = startsAction [ts.next, ts.skip.next] := by
  simp only [nextVerb?]
  generalize ts.next = a
  generalize ts.skip.next = b
  cases a <;> cases b <;> rfl

/-- Only the first two tokens tell an action. -/
theorem startsAction_cons (a b : Token) (ts : List Token) :
    startsAction (a :: b :: ts) = startsAction [a, b] := by
  cases a <;> cases b <;> rfl

theorem startsAction_singleton (a : Token) : startsAction [a] = false := by
  cases a <;> rfl

namespace Rule.Body

/-- A verb in front of another word is a gate here, as it is behind `THEN MUST`. -/
def Over (ks : List Token) (t : Token) : Prop := Overread (.word "THEN" :: .word "MUST" :: ks) t

theorem read_of_verb {ts : Tokens} {verb : Verb} (h : nextVerb? ts = some verb) :
    Rule.Body.read ts = andThen (Action.read verb) .action ts.skip := by
  rw [Rule.Body.read, h]

theorem read_of_none {ts : Tokens} (h : nextVerb? ts = none) :
    Rule.Body.read ts = andThen Consequence.read .consequence ts := by
  rw [Rule.Body.read, h]

theorem nextVerb_of_like {pre post us vs : Tokens} (hne : pre ≠ []) (hus : us.kinds = pre.kinds)
    (hvs : vs.Like post) (h : nextVerb? (pre ++ post) = none) : nextVerb? (us ++ vs) = none := by
  cases pre with
  | nil => exact absurd rfl hne
  | cons t pre =>
    obtain ⟨p, us, rfl, htail⟩ := kinds_eq_cons hus
    have hsecond : Tokens.next (us ++ vs) = Tokens.next (pre ++ post) := (hvs.append htail).next
    rw [← Option.not_isSome_iff_eq_none, isSome_nextVerb] at h ⊢
    simpa [hsecond] using h

theorem startsAction_of_none {pre post : Tokens} (h : nextVerb? (pre ++ post) = none) :
    startsAction (pre.kinds ++ [post.next]) = false := by
  rw [← Option.not_isSome_iff_eq_none, isSome_nextVerb, Bool.not_eq_true] at h
  match pre with
  | [] => exact startsAction_singleton post.next
  | [a] => exact h
  | a :: b :: pre =>
    rw [kinds_cons, kinds_cons, List.cons_append, List.cons_append, startsAction_cons]
    exact h

/-- What is no action is refused as a consequence is. -/
theorem over_iff_of_none {pre post : Tokens} (h : nextVerb? (pre ++ post) = none) :
    Over pre.kinds post.next ↔ Overread pre.kinds post.next := by
  rw [Over, overread_behind_must, or_iff_right]
  rintro ⟨w, seen, -, hs, -⟩
  rw [startsAction_of_none h] at hs
  cases hs

theorem completes_of_none {pre post : Tokens} (h : nextVerb? (pre ++ post) = none)
    (hpre : Completes (Consequence.Derives .disjunction) pre.kinds) :
    Completes Rule.Body.Derives pre.kinds := by
  obtain ⟨more, c, hmore, hc⟩ := hpre
  cases hs : startsAction (pre.kinds ++ more) with
  | false => exact ⟨more, _, hmore, .consequence hc hs⟩
  | true =>
    cases pre with
    | nil => exact ⟨[.word "TRUE"], _, by decide, .consequence Consequence.derives_TRUE rfl⟩
    | cons t pre =>
      cases pre with
      | nil =>
        obtain ⟨w, verb, hword, hv⟩ := verb_of_startsAction hs
        have hw := Consequence.derives_variable (Verb.derives_variable hv)
        rw [kinds_cons, kinds_nil, hword]
        exact .of_derives (.consequence hw rfl)
      | cons u pre =>
        have hno := startsAction_of_none h
        simp only [kinds_cons, List.cons_append] at hs hno
        rw [startsAction_cons] at hs hno
        rw [hs] at hno
        cases hno

/-- Where a consequence cannot go on, a body cannot either: no verb stands next. -/
theorem failsOn_of_none {pre post : Tokens} (h : nextVerb? (pre ++ post) = none)
    (hfails : FailsOn Consequence.read pre.kinds post) : FailsOn Rule.Body.read pre.kinds post := by
  intro us vs hus hvs
  have hnone : nextVerb? (us ++ vs) = none := by
    by_cases hne : pre = []
    · -- a verb at the start could be read as a variable
      rw [hne] at hus hfails
      obtain rfl := List.map_eq_nil_iff.1 hus
      cases hverb : nextVerb? vs with
      | none => exact hverb
      | some verb =>
        obtain ⟨w, p, hcons, hv⟩ := nextVerb_eq_some hverb
        have hnext : post.next = .word w := by
          rw [← hvs.next, hcons]
          rfl
        have hnot : Token.word w ≠ .word "NOT" := by
          rintro ⟨⟩
          cases hv
        have hread := Consequence.read_of_derives
          (Consequence.derives_variable (Verb.derives_variable hv))
          (show Tokens.kinds [⟨.word w, p⟩] = [.word w] from rfl)
          (show Tokens.EndsExpression [] from .inl rfl)
        obtain ⟨e, he⟩ := hfails [] [⟨.word w, p⟩] rfl (.of_cons hnext hnot p [])
        rw [List.append_nil, ← List.nil_append [_], he] at hread
        cases hread
    · exact nextVerb_of_like hne hus hvs h
  obtain ⟨e, he⟩ := hfails us vs hus hvs
  exact ⟨e, by rw [read_of_none hnone, andThen, he]⟩

theorem settles_consequence {ts : Tokens} (h : nextVerb? ts = none) :
    Settles Rule.Body.read Rule.Body.Derives Over ts := by
  rw [Settles, read_of_none h, andThen]
  cases hread : Consequence.read ts with
  | error d =>
    cases (Consequence.settles_read ts).refusal hread with
    | exact pre post hts hd hfails hpre hclear =>
      rw [hts] at h
      exact .exact pre post hts hd (failsOn_of_none h hfails) (completes_of_none h hpre)
        (mt (over_iff_of_none h).1 hclear)
    | late pre mid post hts hd hne hlen hend hfails hpre hlate =>
      rw [hts] at h
      have hnext : (mid ++ post).next = mid.next := next_append hne post
      exact .late pre mid post hts hd hne hlen hend (failsOn_of_none h hfails)
        (completes_of_none h hpre) (hnext ▸ (over_iff_of_none h).2 (hnext.symm ▸ hlate))
  | ok result =>
    obtain ⟨c, rest⟩ := result
    obtain ⟨used, rfl, hused⟩ := (Consequence.settles_read ts).taken hread
    have hne : used ≠ [] := by
      obtain ⟨t, us, hkinds, -⟩ := hused.derives.head Consequence.agrees
      rintro rfl
      cases hkinds
    have hs : startsAction used.kinds = false := by
      cases hs : startsAction used.kinds with
      | false => rfl
      | true => exact absurd h (nextVerb_of_startsAction hs)
    refine ⟨used, rfl, .consequence hused.derives hs, ?_, mt (over_iff_of_none h).1 hused.clear⟩
    intro us vs hus hvs
    rw [read_of_none (nextVerb_of_like hne hus hvs h), andThen, hused.stays us vs hus hvs]

theorem settles_action {ts : Tokens} {verb : Verb} (h : nextVerb? ts = some verb) :
    Settles Rule.Body.read Rule.Body.Derives Over ts := by
  obtain ⟨w, p, hts, hv⟩ := nextVerb_eq_some h
  have hnext : ts.next = .word w := by rw [hts]; rfl
  have hs : startsAction [.word w, ts.skip.next] = true := by
    rw [← hnext, ← isSome_nextVerb, h]
    rfl
  refine (Action.settles_read hv ts.skip).behind_next [] hnext (by simp) .action ?_ ?_ ?_
  · intro us vs q hus hvs
    obtain rfl := List.map_eq_nil_iff.1 hus
    have hsome : nextVerb? (⟨.word w, q⟩ :: vs) = some verb := by
      simp only [nextVerb?, hnext] at h ⊢
      simpa only [next_cons, skip_cons, hvs.next] using h
    rw [List.nil_append, read_of_verb hsome]
    rfl
  · intro ks a ha
    exact .action ha
  · intro ks u hfirst
    have hword : Overread (.word w :: ks) u ↔ Overread ks u := by
      refine overread_behind_plain noReserved_nil ?_
      rintro v hgate ⟨⟩
      have hreserved := isReserved_of_gateWords hgate
      rw [Verb.not_reserved hv] at hreserved
      cases hreserved
    have hstart : startsAction (.word w :: ks ++ [u]) = true := by
      rw [← hs, ← hfirst]
      cases ks with
      | nil => rfl
      | cons t ks => exact startsAction_cons _ t _
    rw [kinds_nil, List.nil_append, Over, overread_behind_must, hword]
    refine or_congr ⟨?_, ?_⟩ Iff.rfl
    · rintro ⟨v, seen, hks, -, hgoes⟩
      cases hks
      exact hgoes
    · intro hgoes
      exact ⟨w, ks, rfl, hstart, hgoes⟩

theorem settles_read (ts : Tokens) : Settles Rule.Body.read Rule.Body.Derives Over ts := by
  cases h : nextVerb? ts with
  | none => exact settles_consequence h
  | some verb => exact settles_action h

end Rule.Body

/-! ## Rules -/

namespace Rule

/-- Reads a body up to the end of input. -/
def readBody (condition : Condition) (ts : Tokens) : Except Diagnostic Rule :=
  if ts.next == .endOfInput then ts.refuse .missingBody
  else
    match Rule.Body.read ts with
    | .error d => .error d
    | .ok (body, rest) =>
      if rest.next == .endOfInput then .ok ⟨condition, body⟩
      else rest.refuse (.trailingToken rest.next)

/-- Reads what follows a condition. -/
def readBehind (condition : Condition) (ts : Tokens) : Except Diagnostic Rule :=
  match ts.expectWord "THEN" with
  | .error d => .error d
  | .ok rest =>
    match rest.expectWord "MUST" with
    | .error d => .error d
    | .ok rest => readBody condition rest

theorem read_when (p : Position) (ts : Tokens) :
    Rule.read (⟨.word "WHEN", p⟩ :: ts) =
      match Condition.read ts with
      | .error d => .error d
      | .ok (condition, rest) => readBehind condition rest := by
  have hend : (Token.word "WHEN" == Token.endOfInput) = false := rfl
  simp only [Rule.read, next_cons, expectWord_cons, bind, Except.bind, hend, Bool.false_eq_true,
    ↓reduceIte]
  cases Condition.read ts with
  | error d => rfl
  | ok result =>
    obtain ⟨condition, rest⟩ := result
    simp only [readBehind]
    cases rest.expectWord "THEN" with
    | error d => rfl
    | ok rest =>
      simp only
      cases rest.expectWord "MUST" with
      | error d => rfl
      | ok rest =>
        simp only [readBody]
        split
        · rfl
        · cases Rule.Body.read rest <;> rfl

theorem refusal_readBody {condition : Condition} {ts : Tokens} {d : Diagnostic}
    (h : readBody condition ts = .error d) :
    Refusal (readBody condition) Rule.Body.Derives Rule.Body.Over ts d := by
  by_cases hend : ts.next = .endOfInput
  · have hfails {vs : Tokens} (hvs : vs.next = ts.next) :
        readBody condition vs = vs.refuse .missingBody := by
      simp [readBody, hvs, hend]
    rw [hfails rfl] at h
    cases h
    exact .first rfl (fun vs hvs => ⟨_, hfails hvs.next⟩)
      ⟨[.word "TRUE"], _, by decide, .consequence Consequence.derives_TRUE rfl⟩
      (not_overread_must _)
  · have hf {vs : Tokens} (hvs : vs.next = ts.next) :
        readBody condition vs =
          match Rule.Body.read vs with
          | .error d => .error d
          | .ok (body, rest) =>
            if rest.next == .endOfInput then .ok ⟨condition, body⟩
            else rest.refuse (.trailingToken rest.next) := by
      simp [readBody, hvs, hend]
    rw [hf rfl] at h
    cases hread : Rule.Body.read ts with
    | error e =>
      rw [hread] at h
      cases h
      refine ((Rule.Body.settles_read ts).refusal hread).pass ?_ fun ks b hb => .of_derives hb
      intro vs e hvs he
      exact ⟨e, by rw [hf hvs.next, he]⟩
    | ok result =>
      obtain ⟨body, rest⟩ := result
      obtain ⟨used, rfl, hused⟩ := (Rule.Body.settles_read ts).taken hread
      rw [hread] at h
      simp only at h
      split at h
      · cases h
      · rename_i htrailing
        cases h
        refine .exact used rest rfl rfl ?_ (.of_derives hused.derives) hused.clear
        intro us vs hus hvs
        have hnext : ¬ (vs.next == Token.endOfInput) = true := by
          rw [hvs.next]
          exact htrailing
        exact ⟨_, by rw [hf (hvs.append hus).next, hused.stays us vs hus hvs]; exact if_neg hnext⟩

/-- What follows a condition. -/
def BehindDerives (ts : List Token) (b : Rule.Body) : Prop :=
  ∃ bs, ts = .word "THEN" :: .word "MUST" :: bs ∧ Rule.Body.Derives bs b

theorem refusal_readBehind {condition : Condition} {ts : Tokens} {d : Diagnostic}
    (hthen : ts.next = .word "THEN") (h : readBehind condition ts = .error d) :
    Refusal (readBehind condition) BehindDerives Overread ts d := by
  have hTRUE : Rule.Body.Derives [.word "TRUE"] (.consequence (.literal true)) :=
    .consequence Consequence.derives_TRUE rfl
  have hf (p : Position) (vs : Tokens) : readBehind condition (⟨.word "THEN", p⟩ :: vs) =
      match vs.expectWord "MUST" with
      | .error d => .error d
      | .ok rest => readBody condition rest := by
    simp only [readBehind, expectWord_cons]
  obtain ⟨p, hts⟩ := eq_cons_of_next hthen (by simp)
  rw [hts] at h ⊢
  by_cases hmust : ts.skip.next = .word "MUST"
  · obtain ⟨q, hskip⟩ := eq_cons_of_next hmust (by simp)
    rw [hskip, hf, expectWord_cons] at h
    rw [hskip]
    refine (refusal_readBody h).behind [⟨.word "THEN", p⟩, ⟨.word "MUST", q⟩] ?_ ?_
      fun _ _ _ => Iff.rfl
    · intro us vs e hus _ he
      obtain ⟨p, us, rfl, htail⟩ := kinds_eq_cons hus
      obtain ⟨q, rfl⟩ := kinds_eq_singleton htail
      exact ⟨e, by rw [← he]; exact hf p (⟨.word "MUST", q⟩ :: vs)⟩
    · intro ks b hb
      exact .of_derives ⟨ks, rfl, hb⟩
  · have hstop (q : Position) {vs : Tokens} (hvs : vs.next = ts.skip.next) :
        readBehind condition (⟨.word "THEN", q⟩ :: vs) =
          vs.refuse (.expectedWord "MUST" vs.next) := by
      rw [hf, expectWord_of_ne (hvs ▸ hmust)]
      rfl
    rw [hstop p rfl] at h
    cases h
    refine .exact [⟨.word "THEN", p⟩] ts.skip rfl rfl ?_ ?_ (not_overread_then _)
    · intro us vs hus hvs
      obtain ⟨q, rfl⟩ := kinds_eq_singleton hus
      exact ⟨_, hstop q hvs.next⟩
    · exact ⟨[.word "MUST", .word "TRUE"], _, by decide, [.word "TRUE"], rfl, hTRUE⟩

/-- Where a rule is refused, no rule goes on, or an operand behind a gate has been read on. -/
theorem refusal {ts : Tokens} {d : Diagnostic} (h : Rule.read ts = .error d) :
    Refusal Rule.read Rule.Derives Overread ts d := by
  have hTRUE : Rule.Body.Derives [.word "TRUE"] (.consequence (.literal true)) :=
    .consequence Consequence.derives_TRUE rfl
  by_cases hwhen : ts.next = .word "WHEN"
  · obtain ⟨p, hts⟩ := eq_cons_of_next hwhen (by simp)
    have hplain {ks : List Token} {u : Token} : Overread (.word "WHEN" :: ks) u ↔ Overread ks u :=
      overread_behind_plain noReserved_nil (by decide)
    rw [hts, read_when] at h
    cases hread : Condition.read ts.skip with
    | error e =>
      rw [hread] at h
      cases h
      refine ((Condition.settles_read ts.skip).refusal hread).behind_next [] hwhen (by simp) ?_ ?_
        fun _ _ _ => hplain
      · intro us vs q e hus _ he
        obtain rfl := List.map_eq_nil_iff.1 hus
        exact ⟨e, by rw [List.nil_append, read_when, he]⟩
      · intro ks c hc
        exact ⟨[.word "THEN", .word "MUST", .word "TRUE"], _, by decide, .intro hc hTRUE⟩
    | ok result =>
      obtain ⟨condition, rest⟩ := result
      obtain ⟨cs, hskip, hcs⟩ := (Condition.settles_read ts.skip).taken hread
      rw [hread] at h
      simp only at h
      have hf {us vs : Tokens} (q : Position) (hus : us.kinds = cs.kinds) (hvs : vs.Like rest) :
          Rule.read (⟨.word "WHEN", q⟩ :: (us ++ vs)) = readBehind condition vs := by
        rw [read_when, hcs.stays us vs hus hvs]
      rw [hts, hskip]
      by_cases hthen : rest.next = .word "THEN"
      · refine (refusal_readBehind hthen h).behind (⟨.word "WHEN", p⟩ :: cs) ?_ ?_ ?_
        · intro us vs e hus hvs he
          obtain ⟨q, us, rfl, htail⟩ := kinds_eq_cons hus
          exact ⟨e, (hf q htail hvs).trans he⟩
        · rintro ks b ⟨bs, rfl, hb⟩
          exact .of_derives (.intro hcs.derives hb)
        · intro ks u hfirst
          cases ks with
          | nil =>
            obtain rfl : u = rest.next := hfirst
            rw [List.append_nil]
            exact iff_of_false (mt hplain.1 hcs.clear) (not_overread_nil _)
          | cons t ks =>
            obtain rfl : t = .word "THEN" := hfirst.trans hthen
            exact overread_behind_then
      · have hstop {vs : Tokens} (hvs : vs.next = rest.next) :
            readBehind condition vs = vs.refuse (.expectedWord "THEN" vs.next) := by
          rw [readBehind, expectWord_of_ne (hvs ▸ hthen)]
          rfl
        rw [hstop rfl] at h
        cases h
        refine .exact (⟨.word "WHEN", p⟩ :: cs) rest rfl rfl ?_ ?_ (mt hplain.1 hcs.clear)
        · intro us vs hus hvs
          obtain ⟨q, us, rfl, htail⟩ := kinds_eq_cons hus
          exact ⟨_, (hf q htail hvs).trans (hstop hvs.next)⟩
        · exact ⟨[.word "THEN", .word "MUST", .word "TRUE"], _, by decide, .intro hcs.derives hTRUE⟩
  · have hstop {vs : Tokens} (hvs : vs.next = ts.next) :
        ∃ fault, Rule.read vs = vs.refuse fault := by
      by_cases hend : ts.next = .endOfInput
      · exact ⟨.emptyRule, by simp [Rule.read, hvs, hend]⟩
      · refine ⟨.expectedWord "WHEN" vs.next, ?_⟩
        simp only [Rule.read, expectWord_of_ne (hvs ▸ hwhen), hvs, beq_iff_eq, hend, ↓reduceIte]
        rfl
    obtain ⟨fault, hwhole⟩ := hstop (rfl : ts.next = ts.next)
    rw [hwhole] at h
    cases h
    refine .first rfl ?_ ?_ (not_overread_nil _)
    · intro vs hvs
      obtain ⟨fault, hfault⟩ := hstop hvs.next
      exact ⟨_, hfault⟩
    · exact ⟨[.word "WHEN", .word "TRUE", .word "THEN", .word "MUST", .word "TRUE"], _, by decide,
        .intro Condition.derives_TRUE hTRUE⟩

end Rule

end Compliance
