import Compliance.Proofs.Rule.Identity
import Compliance.Proofs.Rule.Marks

/-!
# Compliance.Proofs.Rule.RoundTrip

Parsing the canonical text of a rule.

* `Rule.ReadsBack`            — what the canonical text can carry: no text hides a quote, no
  consequence begins like an action, and the label of an action is a plain word.
* `Rule.parse_render`         — such a rule is parsed from its canonical text.
* `Rule.texts_of_parse_render`, `Rule.body_of_parse_render` — no other text is parsed as an equal
  rule.
* `Rule.parse_render_iff`     — both, for the rules of parsed texts.
-/

namespace Compliance

open Tokens

/-! ## The tokens of a rule -/

/-- The tokens of a body. The label of an action may be no token, and is left out. -/
def Rule.Body.tokens : Rule.Body → List Token
  | .consequence c => c.tokens
  | .action a => .word a.verb.keyword :: a.target.tokens

/-- What stands behind the tokens of a body in its text. -/
def Rule.Body.tail : Rule.Body → List Char
  | .consequence _ => []
  | .action a => ' ' :: a.label.toList

def Rule.tokens (r : Rule) : List Token := Rule.headTokens r.condition ++ r.body.tokens

theorem Rule.Body.spells_tokens {b : Rule.Body} (h : b.IsCanonical) :
    Spells b.tokens (' ' :: b.render.toList) b.tail := by
  refine .blank ?_
  cases b with
  | consequence c =>
    have hspells := Consequence.written h.lexemes [] breaks_nil
    rwa [List.append_nil] at hspells
  | action a =>
    obtain ⟨verb, path, label, rfl, hpath⟩ := Action.IsCanonical.eq_variable h
    exact Action.spells_head verb label hpath

theorem Rule.spells_tokens {r : Rule} (h : r.IsCanonical) :
    Spells r.tokens r.render.toList r.body.tail :=
  (Rule.spells_head h.condition).trans (Rule.Body.spells_tokens h.body)

/-- A rule is derived from its head, and any tokens that its body is derived from. -/
theorem Rule.derives_headTokens {r : Rule} (h : r.condition.IsCanonical) {ts : List Token}
    (hts : Rule.Body.Derives ts r.body) : Rule.Derives (Rule.headTokens r.condition ++ ts) r := by
  have hrule := Rule.Derives.intro h.disjunction hts
  simpa [headTokens] using hrule

/-- The tokens behind the head of a rule derive the body. -/
theorem Rule.body_derives_of_headTokens {c : Condition} (h : c.IsCanonical) {ts : List Token}
    {r : Rule} (hr : Rule.Derives (Rule.headTokens c ++ ts) r) : Rule.Body.Derives ts r.body := by
  generalize hall : Rule.headTokens c ++ ts = us at hr
  obtain ⟨hc, hb⟩ := hr
  rwa [(Rule.headTokens_unique h hc hall).2]

/-! ## Rules whose text can be read -/

/-- A consequence must not be mistaken for an action, and a label has to be one word. -/
def Rule.Body.ReadsBack : Rule.Body → Prop
  | .consequence c => c.startsLikeAction = false
  | .action a => (Token.word a.label).IsLexeme ∧ isReserved a.label = false

structure Rule.ReadsBack (r : Rule) : Prop where
  texts : ∀ s, .text s ∈ r.tokens → ¬ Token.HidesQuote s.toList
  body : r.body.ReadsBack

theorem Spells.scan_all {ts : List Token} {source : String} (h : Spells ts source.toList [])
    (hclean : ∀ s, .text s ∈ ts → ¬ Token.HidesQuote s.toList) :
    ∃ (used : Tokens) (q : Position), used.kinds = ts ∧
      Token.scan source = .ok (used ++ [⟨.endOfInput, q⟩]) := by
  obtain ⟨used, q, hused, hscan⟩ := h.scan hclean Position.start
  refine ⟨used, q, hused, ?_⟩
  rw [Token.scan, hscan, Token.scanFrom]
  rfl

/-- If what stands behind the tokens of the body is spelled too, all tokens together are read. -/
theorem Rule.parse_render_of_tail {r : Rule} (h : r.IsCanonical)
    (htexts : ∀ s, .text s ∈ r.tokens → ¬ Token.HidesQuote s.toList) {ts : List Token}
    (htail : Spells ts r.body.tail []) (hts : ∀ s, .text s ∉ ts)
    (hbody : Rule.Body.Derives (r.body.tokens ++ ts) r.body) : Rule.parse r.render = .ok r := by
  have hclean : ∀ s, .text s ∈ r.tokens ++ ts → ¬ Token.HidesQuote s.toList := by
    intro s hs
    rcases List.mem_append.1 hs with hs | hs
    · exact htexts s hs
    · exact absurd hs (hts s)
  obtain ⟨used, q, hused, hscan⟩ := ((Rule.spells_tokens h).trans htail).scan_all hclean
  rw [Rule.tokens, List.append_assoc] at hused
  exact Rule.parse_of_derives hscan (hused ▸ Rule.derives_headTokens h.condition hbody)

/-- What can be read back is parsed from the canonical text, as it is. -/
theorem Rule.parse_render {r : Rule} (h : r.IsCanonical) (hr : r.ReadsBack) :
    Rule.parse r.render = .ok r := by
  obtain ⟨condition, body⟩ := r
  cases body with
  | consequence c =>
    have hc : Rule.Body.Derives c.tokens (.consequence c) :=
      .consequence (Consequence.IsCanonical.disjunction h.body)
        ((Consequence.startsAction_tokens c).trans hr.body)
    rw [← List.append_nil c.tokens] at hc
    exact Rule.parse_render_of_tail h hr.texts (.done []) (by simp) hc
  | action a =>
    obtain ⟨verb, path, label, rfl, hpath⟩ := Action.IsCanonical.eq_variable h.body
    obtain ⟨hlexeme, hreserved⟩ := hr.body
    have hlabel : Spells [.word label] (' ' :: label.toList) [] := by
      have hspells := Written.token hlexeme [] breaks_nil
      rw [List.append_nil] at hspells
      exact .blank hspells
    have ha : Rule.Body.Derives (.word verb.keyword :: ([.word path] ++ [.word label]))
        (.action ⟨verb, .variable path, label⟩) :=
      .action (.word verb.ofKeyword?_keyword hpath.derives hreserved)
    exact Rule.parse_render_of_tail h hr.texts hlabel (by simp) ha

/-! ## Rules whose text cannot be read -/

def Rule.Body.marks : Rule.Body → List (Option String)
  | .consequence c => c.marks
  | .action a => a.target.marks

/-- The texts and instants of a rule. -/
def Rule.marks (r : Rule) : List (Option String) := r.condition.marks ++ r.body.marks

theorem Rule.marks_tokens (r : Rule) : r.tokens.flatMap Token.canonicalMarks = r.marks := by
  obtain ⟨condition, body⟩ := r
  cases body with
  | consequence c =>
    simp [tokens, headTokens, marks, Body.tokens, Body.marks, Condition.marks_tokens,
      Consequence.marks_tokens, Token.canonicalMarks]
  | action a =>
    simp [tokens, headTokens, marks, Body.tokens, Body.marks, Condition.marks_tokens,
      Operand.marks_tokens, Token.canonicalMarks]

/-- The label of an action may add a mark to those of its rule. -/
theorem Rule.Derives.marks {ts : List Token} {r : Rule} (h : Rule.Derives ts r) :
    ∃ more, ts.flatMap Token.marks = r.marks ++ more := by
  obtain ⟨hc, hb⟩ := h
  cases hb with
  | action ha =>
    cases ha with
    | word hv ht hl =>
      exact ⟨[], by simp [Rule.marks, Body.marks, hc.marks, ht.marks, Token.marks]⟩
    | @text w path label verb ts hv ht =>
      exact ⟨(Token.text label).marks,
        by simp [Rule.marks, Body.marks, hc.marks, ht.marks, Token.marks]⟩
  | consequence hk hs =>
    exact ⟨[], by simp [Rule.marks, Body.marks, hc.marks, hk.marks, Token.marks]⟩

theorem Rule.marks_eq_of_beq {r s : Rule} (h : (r == s) = true) : r.marks = s.marks := by
  obtain ⟨c, body⟩ := r
  obtain ⟨d, body'⟩ := s
  obtain ⟨hcondition, hbody⟩ : (c == d) = true ∧ (body == body') = true :=
    Bool.and_eq_true_iff.1 h
  rw [marks, marks, Condition.marks_eq_of_beq hcondition]
  cases body with
  | consequence k =>
    cases body' with
    | consequence k' => rw [Body.marks, Body.marks, Consequence.marks_eq_of_beq hbody]
    | action a => cases hbody
  | action a =>
    cases body' with
    | consequence k => cases hbody
    | action a' =>
      obtain ⟨-, htarget, -⟩ := Action.beq_iff.1 hbody
      rw [Body.marks, Body.marks, Operand.marks_eq_of_beq htarget]

/-- The first text that hides a quote, if there is one. -/
theorem Token.exists_first_hidesQuote (ts : List Token) :
    (∀ s, .text s ∈ ts → ¬ HidesQuote s.toList) ∨
      ∃ pre s post, ts = pre ++ .text s :: post ∧ HidesQuote s.toList ∧
        ∀ r, .text r ∈ pre → ¬ HidesQuote r.toList := by
  induction ts with
  | nil => exact .inl fun s hs => absurd hs (by simp)
  | cons t ts ih =>
    by_cases ht : ∃ s, t = .text s ∧ HidesQuote s.toList
    · obtain ⟨s, rfl, hs⟩ := ht
      exact .inr ⟨[], s, ts, rfl, hs, fun r hr => absurd hr (by simp)⟩
    · have head {us : List Token} (hus : ∀ s, .text s ∈ us → ¬ HidesQuote s.toList) :
          ∀ s, .text s ∈ t :: us → ¬ HidesQuote s.toList := by
        intro s hs
        rcases List.mem_cons.1 hs with rfl | hs
        · exact fun hide => ht ⟨s, rfl, hide⟩
        · exact hus s hs
      rcases ih with hclean | ⟨pre, s, post, rfl, hs, hpre⟩
      · exact .inl (head hclean)
      · exact .inr ⟨t :: pre, s, post, rfl, hs, head hpre⟩

/-- A rule that is read back has no text that hides a quote. -/
theorem Rule.texts_of_parse_render {r r' : Rule} (h : r.IsCanonical)
    (hparse : Rule.parse r.render = .ok r') (heq : (r' == r) = true) :
    ∀ s, .text s ∈ r.tokens → ¬ Token.HidesQuote s.toList := by
  rcases Token.exists_first_hidesQuote r.tokens with hclean | ⟨pre, s, post, htokens, hs, hpre⟩
  · exact hclean
  · obtain ⟨used, q, hscan, -, hd⟩ := Rule.derives_of_parse hparse
    have hspells := Rule.spells_tokens h
    rw [htokens] at hspells
    obtain ⟨t, more, hkinds, hne⟩ := hspells.scan_hidesQuote hpre hs hscan
    obtain ⟨extra, hmarks⟩ := hd.marks
    -- both lists of marks go on behind those of `pre`, with the one text and with the other
    have hlist : pre.flatMap Token.marks ++ ((Token.text t).marks ++ more.flatMap Token.marks) =
        pre.flatMap Token.canonicalMarks ++
          (some s :: post.flatMap Token.canonicalMarks ++ extra) :=
      calc
        _ = (pre ++ .text t :: more).flatMap Token.marks := by simp
        _ = used.kinds.flatMap Token.marks := by rw [← hkinds]; simp [Token.marks]
        _ = r.marks ++ extra := by rw [hmarks, Rule.marks_eq_of_beq heq]
        _ = _ := by rw [← Rule.marks_tokens, htokens]; simp [Token.canonicalMarks]
    have hlen := Token.length_flatMap_marks pre
    have htail := (List.append_inj hlist hlen).2
    rcases Operand.ofQuoted_eq t with ⟨i, -, ht⟩ | ht
    · simp [Token.marks, ht, Operand.marks] at htail
    · simp [Token.marks, ht, Operand.marks, hne] at htail

/-- Behind the verb and the target stands the label. -/
theorem Action.Derives.label_of_append {w path : String} {ts : List Token} {a : Action}
    (h : Action.Derives (.word w :: ([.word path] ++ ts)) a) :
    (ts = [.word a.label] ∧ isReserved a.label = false) ∨ ts = [.text a.label] := by
  generalize hall : Token.word w :: ([.word path] ++ ts) = us at h
  cases h with
  | word hv ht hl =>
    rw [ht.eq_path.1] at hall
    cases hall
    exact .inl ⟨rfl, hl⟩
  | text hv ht =>
    rw [ht.eq_path.1] at hall
    cases hall
    exact .inr rfl

/-- A rule that is read back has a body that is read as one of its kind. -/
theorem Rule.body_of_parse_render {r r' : Rule} (h : r.IsCanonical)
    (htexts : ∀ s, .text s ∈ r.tokens → ¬ Token.HidesQuote s.toList)
    (hparse : Rule.parse r.render = .ok r') (heq : (r' == r) = true) : r.body.ReadsBack := by
  obtain ⟨used, q, hscan, hlexemes, hd⟩ := Rule.derives_of_parse hparse
  obtain ⟨head, p, hhead, hmap⟩ := (Rule.spells_tokens h).scan htexts Position.start
  rw [Token.scan, hmap] at hscan
  obtain ⟨behind, hbehind, hused⟩ := Except.map_eq_ok hscan
  obtain ⟨more, p', rfl, hmore⟩ := Token.isLexeme_of_scanFrom hbehind
  have hkinds : used.kinds = r.tokens ++ more.kinds := by
    rw [← List.append_assoc] at hused
    rw [(List.append_inj' hused rfl).1, kinds_append, hhead]
  rw [hkinds, Rule.tokens, List.append_assoc] at hd
  have hbody := Rule.body_derives_of_headTokens h.condition hd
  have hsame : (r'.body == r.body) = true := (Bool.and_eq_true_iff.1 heq).2
  generalize r'.body = body' at hbody hsame
  obtain ⟨condition, body⟩ := r
  cases body with
  | consequence c =>
    have hnil : more = [] := by
      rw [Body.tail, Token.scanFrom] at hbehind
      have hlen := congrArg List.length (Except.ok.inj hbehind)
      simpa using hlen.symm
    rw [hnil, Body.tokens, kinds_nil, List.append_nil] at hbody
    cases hbody with
    | action ha => cases hsame
    | consequence hc hs => exact (Consequence.startsAction_tokens c).symm.trans hs
  | action a =>
    obtain ⟨verb, path, label, rfl, -⟩ := Action.IsCanonical.eq_variable h.body
    cases hbody with
    | consequence hc hs => cases hsame
    | @action a ha =>
      have hlabel : a.label = label :=
        (Action.beq_iff (b := ⟨verb, .variable path, label⟩).1 hsame).2.2
      rcases ha.label_of_append with ⟨hword, hreserved⟩ | htext
      · rw [hlabel] at hword hreserved
        exact ⟨hmore _ (by simp [hword]), hreserved⟩
      · -- a quoted label would need more room than the label has
        obtain ⟨p, rfl⟩ := kinds_eq_singleton htext
        have hlen := Token.length_of_scanFrom_text hbehind
        rw [hlabel] at hlen
        simp only [Body.tail, List.length_cons] at hlen
        omega

/-! ## Equality of rules -/

instance : ReflBEq Decimal := ⟨fun {d} => beq_self_eq_true (d.mantissa * _)⟩

instance : ReflBEq Instant := ⟨fun {t} => beq_self_eq_true t.nanos⟩

theorem Operand.beq_self (v : Operand) : (v == v) = true := by
  cases v with
  | «variable» path => exact beq_self_eq_true path
  | text s => exact beq_self_eq_true s
  | number d => exact beq_self_eq_true d
  | bool b => exact beq_self_eq_true b
  | instant t => exact beq_self_eq_true t
  | span amount unit =>
    have hspan : (decide (amount = amount) && decide (unit = unit)) = true := by simp
    exact hspan
  | null => rfl
  | call name => exact beq_self_eq_true name

instance : ReflBEq Operand := ⟨fun {v} => v.beq_self⟩

deriving instance ReflBEq for Condition, Consequence, Action, Rule.Body, Rule

/-! ## Parsed rules -/

/-- The canonical text of a parsed rule is parsed as an equal rule just in case the rule can be read
back, and then as the same rule. -/
theorem Rule.parse_render_iff {source : String} {r : Rule} (h : Rule.parse source = .ok r) :
    ((∃ r', Rule.parse r.render = .ok r' ∧ (r' == r) = true) ↔ r.ReadsBack) ∧
      (r.ReadsBack → Rule.parse r.render = .ok r) := by
  have hr := Rule.isCanonical_of_parse h
  refine ⟨⟨?_, fun hback => ⟨r, Rule.parse_render hr hback, beq_self_eq_true r⟩⟩,
    Rule.parse_render hr⟩
  rintro ⟨r', hparse, heq⟩
  have htexts := Rule.texts_of_parse_render hr hparse heq
  exact ⟨htexts, Rule.body_of_parse_render hr htexts hparse heq⟩

/-- A label of two words is not read back. -/
theorem Rule.parse_render_iff_label :
    ∃ r : Rule, Rule.parse "WHEN a THEN MUST FLAG b 'c d'" = .ok r ∧
      ¬ ∃ r', Rule.parse r.render = .ok r' ∧ (r' == r) = true := by
  have hscan : Token.scan "WHEN a THEN MUST FLAG b 'c d'" =
      .ok [⟨.word "WHEN", ⟨1, 1⟩⟩, ⟨.word "a", ⟨1, 6⟩⟩, ⟨.word "THEN", ⟨1, 8⟩⟩,
        ⟨.word "MUST", ⟨1, 13⟩⟩, ⟨.word "FLAG", ⟨1, 18⟩⟩, ⟨.word "b", ⟨1, 23⟩⟩,
        ⟨.text "c d", ⟨1, 25⟩⟩, ⟨.endOfInput, ⟨1, 30⟩⟩] := by decide +kernel
  have hr := Rule.parse_of_read hscan
    (r := ⟨.truthiness (.variable "a"), .action ⟨.flag, .variable "b", "c d"⟩⟩) rfl
  refine ⟨_, hr, fun h => ?_⟩
  obtain ⟨hlexeme, -⟩ := ((Rule.parse_render_iff hr).1.1 h).body
  have hword : Token.takeWord "c d".toList = "c d".toList := hlexeme.2
  exact absurd hword (by decide)

end Compliance
