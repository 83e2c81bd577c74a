import Compliance.Diagnostic
import Compliance.Text.Blank

/-!
# Compliance.Token.Scanning

Rule text as tokens.

* `lexeme?`     — the token at the start of a text, and the number of characters it takes.
* `Token.scan`  — all tokens of a text with their positions, the end of input last. Blanks and
  comments, from `--` to the end of the line, separate tokens and are left out.
-/

namespace Compliance.Token

/-! ## Character classes -/

def isWordStart (c : Char) : Bool := c.isAlpha || c == '_'

def isWordChar (c : Char) : Bool := c.isAlphanum || c == '_'

/-- What may follow the year of a date. -/
def isInstantChar (c : Char) : Bool :=
  c.isAlphanum || c == '-' || c == ':' || c == '.' || c == '+'

/-! ## Lexemes -/

/-- Reads a quoted text behind its opening quote: its content, and the number of characters up to
and with the closing quote. A quote is written twice or behind a backslash; any other backslash
stands for itself. -/
def quoted? : List Char → Option (List Char × Nat)
  | [] => none
  | '\'' :: '\'' :: cs => (quoted? cs).map fun (s, n) => ('\'' :: s, n + 2)
  | '\\' :: '\'' :: cs => (quoted? cs).map fun (s, n) => ('\'' :: s, n + 2)
  | c :: cs => if c == '\'' then some ([], 1) else (quoted? cs).map fun (s, n) => (c :: s, n + 1)

/-- Four digits and a minus sign start a date. -/
def startsDate : List Char → Bool
  | a :: b :: c :: d :: '-' :: _ => a.isDigit && b.isDigit && c.isDigit && d.isDigit
  | _ => false

/-- The places at the start of a text: a point with at least one digit behind it. -/
def takePlaces : List Char → List Char
  | '.' :: cs => if (cs.takeWhile Char.isDigit).isEmpty then [] else '.' :: cs.takeWhile Char.isDigit
  | _ => []

/-- The digits and places at the start of a text. -/
def takeMagnitude (cs : List Char) : List Char :=
  cs.takeWhile Char.isDigit ++ takePlaces (cs.dropWhile Char.isDigit)

/-- Does a number start here? A minus sign belongs to a number when a digit follows it. -/
def startsNumber : List Char → Bool
  | '-' :: d :: _ => d.isDigit
  | c :: _ => c.isDigit
  | [] => false

def takeNumber : List Char → List Char
  | '-' :: cs => '-' :: takeMagnitude cs
  | cs => takeMagnitude cs

/-- The dotted path at the start of a text. A dot belongs to it when a word goes on behind it. -/
def takeWord : List Char → List Char
  | [] => []
  | '.' :: c :: cs => if isWordChar c then '.' :: takeWord (c :: cs) else []
  | c :: cs => if isWordChar c then c :: takeWord cs else []

/-- The mark at the start of a text, and the number of characters it takes. -/
def mark? : List Char → Option (Token × Nat)
  | '!' :: '=' :: _ => some (.notEqual, 2)
  | '<' :: '>' :: _ => some (.notEqual, 2)
  | '<' :: '=' :: _ => some (.lessEqual, 2)
  | '>' :: '=' :: _ => some (.greaterEqual, 2)
  | '=' :: '=' :: _ => some (.equal, 2)
  | '=' :: _ => some (.equal, 1)
  | '<' :: _ => some (.less, 1)
  | '>' :: _ => some (.greater, 1)
  | '[' :: _ => some (.leftBracket, 1)
  | ']' :: _ => some (.rightBracket, 1)
  | '(' :: _ => some (.leftParen, 1)
  | ')' :: _ => some (.rightParen, 1)
  | ',' :: _ => some (.comma, 1)
  | _ => none

/-- Does a letter directly follow? A number must not run into a word. -/
def startsWord : List Char → Bool
  | c :: _ => isWordStart c
  | [] => false

/-- The token at the start of the text `c :: cs`, and the number of characters it takes beyond
the first. The first character is neither blank nor the start of a comment. -/
def lexeme? (c : Char) (cs : List Char) : Except Fault (Token × Nat) :=
  if c == '\'' then
    match quoted? cs with
    | none => .error .unterminatedText
    | some (s, n) => .ok (.text (String.ofList s), n)
  else if startsDate (c :: cs) then
    let t := (c :: cs).takeWhile isInstantChar
    .ok (.instant (String.ofList t), t.length - 1)
  else if startsNumber (c :: cs) then
    let n := takeNumber (c :: cs)
    if startsWord ((c :: cs).drop n.length) then .error (.letterAfterNumber (String.ofList n))
    else .ok (.number (String.ofList n), n.length - 1)
  else if isWordStart c then
    let w := takeWord (c :: cs)
    .ok (.word (String.ofList w), w.length - 1)
  else
    match mark? (c :: cs) with
    | some (t, n) => .ok (t, n - 1)
    | none => .error (.unexpectedCharacter c)

/-! ## Whole texts -/

/-- Is this the start of a comment? -/
def startsComment : List Char → Bool
  | '-' :: '-' :: _ => true
  | _ => false

/-- The tokens of a text that starts at position `p`. -/
def scanFrom (p : Position) : List Char → Except Diagnostic (List PlacedToken)
  | [] => .ok [⟨.endOfInput, p⟩]
  | c :: cs =>
    if startsComment (c :: cs) then
      scanFrom ((p.step c).behind (cs.takeWhile (· != '\n'))) (cs.dropWhile (· != '\n'))
    else if Text.isBlank c then scanFrom (p.step c) cs
    else
      match lexeme? c cs with
      | .error fault => .error ⟨p, fault⟩
      | .ok (t, n) =>
        (scanFrom ((p.step c).behind (cs.take n)) (cs.drop n)).map (⟨t, p⟩ :: ·)
termination_by cs => cs.length
decreasing_by
  · exact Nat.lt_succ_of_le (List.dropWhile_sublist _).length_le
  · simp
  · simp only [List.length_drop, List.length_cons]; omega

/-- The tokens of a text, the end of input last. -/
def scan (source : String) : Except Diagnostic (List PlacedToken) :=
  scanFrom Position.start source.toList

end Compliance.Token
