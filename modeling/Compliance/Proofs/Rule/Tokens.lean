import Compliance.Proofs.Token.Spelling

/-!
# Compliance.Proofs.Rule.Tokens

The canonical text of a rule as tokens.

* `Operand.tokens`, `Condition.tokens`, `Consequence.tokens` — the tokens of a canonical text.
* `Operand.written`, `Condition.written`, `Consequence.written` — the text spells them.
-/

namespace Compliance

/-! ## Tokens of a text -/

def Operand.tokens : Operand → List Token
  | .variable path => [.word path]
  | .text s => [.text s]
  | .number d => [.number d.text]
  | .bool true => [.word "TRUE"]
  | .bool false => [.word "FALSE"]
  | .instant t => [.instant t.text]
  | .span amount unit =>
    [.number (String.ofList (Text.intDigits amount)), .word unit.keyword]
  | .null => [.word "NULL"]
  | .call name => [.word name, .leftParen, .rightParen]

/-- Operands with commas between them, and the bracket that closes them. -/
def Operand.itemTokens : List Operand → List Token
  | [] => [.rightBracket]
  | [v] => v.tokens ++ [.rightBracket]
  | v :: w :: vs => v.tokens ++ .comma :: itemTokens (w :: vs)

def Operand.listTokens (values : List Operand) : List Token := .leftBracket :: itemTokens values

def Comparison.token : Comparison → Token
  | .equal => .equal
  | .notEqual => .notEqual
  | .greater => .greater
  | .greaterEqual => .greaterEqual
  | .less => .less
  | .lessEqual => .lessEqual
  | .like => .word "LIKE"

def TimeTest.tokens : TimeTest → List Token
  | .before => [.word "BEFORE"]
  | .after => [.word "AFTER"]
  | .within => [.word "WITHIN"]
  | .expires => [.word "EXPIRES", .word "AFTER"]

/-- Two expressions with a connective between them, in parentheses. -/
def Connective.tokens (op : Connective) (left right : List Token) : List Token :=
  .leftParen :: (left ++ .word op.keyword :: (right ++ [.rightParen]))

def Condition.tokens : Condition → List Token
  | .comparison left op right => left.tokens ++ op.token :: right.tokens
  | .membership value values => value.tokens ++ .word "IN" :: Operand.listTokens values
  | .textTest value op pattern => value.tokens ++ .word op.keyword :: pattern.tokens
  | .timeTest value op reference => value.tokens ++ (op.tokens ++ reference.tokens)
  | .logical left op right => op.tokens left.tokens right.tokens
  | .negation inner => .word "NOT" :: inner.tokens
  | .truthiness value => value.tokens

def Demand.token (demand : Demand) : Token := .word demand.verb

def Consequence.tokens : Consequence → List Token
  | .comparison left op right => left.tokens ++ op.token :: right.tokens
  | .membership value false values => value.tokens ++ .word "IN" :: Operand.listTokens values
  | .membership value true values =>
    value.tokens ++ .word "NOT" :: .word "IN" :: Operand.listTokens values
  | .range value lower upper =>
    value.tokens ++ .word "BETWEEN" :: (lower.tokens ++ .word "AND" :: upper.tokens)
  | .presence value demand => demand.token :: value.tokens
  | .logical left op right => op.tokens left.tokens right.tokens
  | .negation inner => .word "NOT" :: inner.tokens
  | .literal b => (Operand.bool b).tokens
  | .truthiness value => value.tokens

/-! ## Spelling -/

/-- The tokens can stand in a text. -/
def AllLexemes (ts : List Token) : Prop := ∀ t ∈ ts, t.IsLexeme

section AllLexemes

variable {t : Token} {ts us : List Token}

theorem AllLexemes.nil : AllLexemes [] := by
  intro t ht
  cases ht

theorem AllLexemes.cons (ht : t.IsLexeme) (hts : AllLexemes ts) : AllLexemes (t :: ts) :=
  List.forall_mem_cons.2 ⟨ht, hts⟩

theorem allLexemes_cons : AllLexemes (t :: ts) ↔ t.IsLexeme ∧ AllLexemes ts := List.forall_mem_cons

theorem allLexemes_append : AllLexemes (ts ++ us) ↔ AllLexemes ts ∧ AllLexemes us :=
  List.forall_mem_append

end AllLexemes

theorem Operand.written_call {name : String} (h : (Token.word name).IsLexeme) :
    Written (Operand.call name).tokens (Operand.call name).render.toList := by
  have hclose : Written [.rightParen] [')'] := Written.token (t := .rightParen) trivial
  have hparens : Written [.leftParen, .rightParen] ['(', ')'] :=
    Written.bracket (t := .leftParen) trivial rfl hclose
  have hall := (Written.token h).append rfl hparens
  rw [Operand.render, String.toList_append]
  exact hall

theorem Operand.written {v : Operand} (h : AllLexemes v.tokens) :
    Written v.tokens v.render.toList := by
  cases v with
  | «variable» path => exact .token (h _ List.mem_cons_self)
  | text s =>
    have hs := Written.token (h (.text s) List.mem_cons_self)
    simpa [Operand.render, Operand.tokens, Token.spelling] using hs
  | number d => exact .token (h _ List.mem_cons_self)
  | bool b => cases b <;> exact .token (h _ List.mem_cons_self)
  | instant t => exact .token (h _ List.mem_cons_self)
  | span amount unit =>
    obtain ⟨hamount, hunit⟩ := allLexemes_cons.1 h
    have hspan := (Written.token hamount).blank (.token (hunit _ List.mem_cons_self))
    simpa [Operand.render, Operand.tokens, Token.spelling] using hspan
  | null => exact .token (h _ List.mem_cons_self)
  | call name => exact written_call (h _ List.mem_cons_self)

theorem Operand.written_items {vs : List Operand} (h : AllLexemes (Operand.itemTokens vs)) :
    Written (Operand.itemTokens vs)
      ((String.intercalate ", " (vs.map Operand.render)).toList ++ [']']) := by
  have hclose : Written [.rightBracket] [']'] := Written.token (t := .rightBracket) trivial
  induction vs with
  | nil => exact hclose
  | cons v vs ih =>
    cases vs with
    | nil =>
      have hv := (allLexemes_append.1 h).1
      simpa [Operand.itemTokens] using (Operand.written hv).append rfl hclose
    | cons w vs =>
      obtain ⟨hv, hrest⟩ := allLexemes_append.1 h
      have hitems := ih (allLexemes_cons.1 hrest).2
      have hcomma := Written.bracket (t := .comma) trivial rfl hitems.blank_cons
      have hall := (Operand.written hv).append rfl hcomma
      simpa [Operand.itemTokens, Token.spelling] using hall

theorem Operand.written_list {vs : List Operand} (h : AllLexemes (Operand.listTokens vs)) :
    Written (Operand.listTokens vs) (Operand.renderList vs).toList := by
  have hitems := Operand.written_items (allLexemes_cons.1 h).2
  have hlist := Written.bracket (t := .leftBracket) trivial rfl hitems
  simpa [Operand.listTokens, Operand.renderList, Token.spelling] using hlist

/-- Two texts with a word or mark between them. -/
theorem Written.between {ls rs : List Token} {l r : List Char} {t : Token} (hl : Written ls l)
    (ht : t.IsLexeme) (hr : Written rs r) :
    Written (ls ++ t :: rs) (l ++ ' ' :: (t.spelling ++ ' ' :: r)) :=
  hl.blank ((Written.token ht).blank hr)

theorem Connective.written {op : Connective} {ls rs : List Token} {l r : List Char}
    (hl : Written ls l) (ht : (Token.word op.keyword).IsLexeme) (hr : Written rs r) :
    Written (op.tokens ls rs)
      ('(' :: (l ++ ' ' :: (op.keyword.toList ++ ' ' :: (r ++ [')'])))) := by
  have hclose : Written [.rightParen] [')'] := Written.token (t := .rightParen) trivial
  exact Written.bracket (t := .leftParen) trivial rfl (hl.between ht (hr.append rfl hclose))

theorem Comparison.spelling_token (op : Comparison) : op.token.spelling = op.keyword.toList := by
  cases op <;> rfl

theorem TimeTest.written (op : TimeTest) : Written op.tokens op.phrase.toList := by
  have word {w : String} (h : (Token.word w).IsLexeme) : Written [.word w] w.toList := .token h
  cases op with
  | expires => exact (word (w := "EXPIRES") ⟨rfl, rfl⟩).blank (word (w := "AFTER") ⟨rfl, rfl⟩)
  | _ => exact word ⟨rfl, rfl⟩

theorem Condition.written {c : Condition} (h : AllLexemes c.tokens) :
    Written c.tokens c.render.toList := by
  induction c with
  | comparison left op right =>
    obtain ⟨hl, h⟩ := allLexemes_append.1 h
    obtain ⟨ht, hr⟩ := allLexemes_cons.1 h
    have hall := (Operand.written hl).between ht (Operand.written hr)
    rw [Comparison.spelling_token] at hall
    simpa [Condition.render, Condition.tokens] using hall
  | membership value values =>
    obtain ⟨hv, h⟩ := allLexemes_append.1 h
    obtain ⟨ht, hvs⟩ := allLexemes_cons.1 h
    have hall := (Operand.written hv).between ht (Operand.written_list hvs)
    simpa [Condition.render, Condition.tokens, Token.spelling] using hall
  | textTest value op pattern =>
    obtain ⟨hv, h⟩ := allLexemes_append.1 h
    obtain ⟨ht, hp⟩ := allLexemes_cons.1 h
    have hall := (Operand.written hv).between ht (Operand.written hp)
    simpa [Condition.render, Condition.tokens, Token.spelling] using hall
  | timeTest value op reference =>
    obtain ⟨hv, h⟩ := allLexemes_append.1 h
    obtain ⟨-, hr⟩ := allLexemes_append.1 h
    have hall := (Operand.written hv).blank (op.written.blank (Operand.written hr))
    simpa [Condition.render, Condition.tokens] using hall
  | logical left op right ihl ihr =>
    obtain ⟨-, h⟩ := allLexemes_cons.1 h
    obtain ⟨hl, h⟩ := allLexemes_append.1 h
    obtain ⟨ht, h⟩ := allLexemes_cons.1 h
    have hall := Connective.written (ihl hl) ht (ihr (allLexemes_append.1 h).1)
    simpa [Condition.render, Condition.tokens] using hall
  | negation inner ih =>
    obtain ⟨ht, hi⟩ := allLexemes_cons.1 h
    have hall := (Written.token ht).blank (ih hi)
    simpa [Condition.render, Condition.tokens, Token.spelling] using hall
  | truthiness value => exact Operand.written h

theorem Consequence.written {c : Consequence} (h : AllLexemes c.tokens) :
    Written c.tokens c.render.toList := by
  induction c with
  | comparison left op right =>
    obtain ⟨hl, h⟩ := allLexemes_append.1 h
    obtain ⟨ht, hr⟩ := allLexemes_cons.1 h
    have hall := (Operand.written hl).between ht (Operand.written hr)
    rw [Comparison.spelling_token] at hall
    simpa [Consequence.render, Consequence.tokens] using hall
  | membership value isNegated values =>
    cases isNegated with
    | false =>
      obtain ⟨hv, h⟩ := allLexemes_append.1 h
      obtain ⟨ht, hvs⟩ := allLexemes_cons.1 h
      have hall := (Operand.written hv).between ht (Operand.written_list hvs)
      simpa [Consequence.render, Consequence.tokens, Token.spelling] using hall
    | true =>
      obtain ⟨hv, h⟩ := allLexemes_append.1 h
      obtain ⟨hn, h⟩ := allLexemes_cons.1 h
      obtain ⟨ht, hvs⟩ := allLexemes_cons.1 h
      have hin := (Written.token ht).blank (Operand.written_list hvs)
      have hall := (Operand.written hv).between hn hin
      simpa [Consequence.render, Consequence.tokens, Token.spelling] using hall
  | range value lower upper =>
    obtain ⟨hv, h⟩ := allLexemes_append.1 h
    obtain ⟨ht, h⟩ := allLexemes_cons.1 h
    obtain ⟨hlo, h⟩ := allLexemes_append.1 h
    obtain ⟨hand, hhi⟩ := allLexemes_cons.1 h
    have hbounds := (Operand.written hlo).between hand (Operand.written hhi)
    have hall := (Operand.written hv).between ht hbounds
    simpa [Consequence.render, Consequence.tokens, Token.spelling] using hall
  | presence value demand =>
    obtain ⟨ht, hv⟩ := allLexemes_cons.1 h
    have hall := (Written.token ht).blank (Operand.written hv)
    simpa [Consequence.render, Consequence.tokens, Demand.token, Token.spelling] using hall
  | logical left op right ihl ihr =>
    obtain ⟨-, h⟩ := allLexemes_cons.1 h
    obtain ⟨hl, h⟩ := allLexemes_append.1 h
    obtain ⟨ht, h⟩ := allLexemes_cons.1 h
    have hall := Connective.written (ihl hl) ht (ihr (allLexemes_append.1 h).1)
    simpa [Consequence.render, Consequence.tokens] using hall
  | negation inner ih =>
    obtain ⟨ht, hi⟩ := allLexemes_cons.1 h
    have hall := (Written.token ht).blank (ih hi)
    simpa [Consequence.render, Consequence.tokens, Token.spelling] using hall
  | literal b => cases b <;> exact Operand.written h
  | truthiness value => exact Operand.written h

end Compliance
