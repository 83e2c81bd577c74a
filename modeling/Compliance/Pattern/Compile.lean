import Compliance.Pattern.Meaning
import Compliance.Pattern.Reading
import Compliance.Pattern.Report
import Compliance.Pattern.Size

/-!
# Compliance.Pattern.Compile

From the text of an expression to the pattern that is run.

* `Pattern.Error`   — why there is no pattern.
* `Pattern.ofText?` — the pattern that a text denotes.
* `Pattern.checked` — a pattern, unless it is too big.
-/

namespace Compliance.Pattern

/-- Why there is no pattern to run. -/
inductive Error where
  | refused (text : List Char) (r : Refusal)
  | tooBig
deriving DecidableEq, Repr

def Error.message : Error → String
  | .refused text r => r.report text
  | .tooBig => "Compiled regex exceeds size limit of " ++ toString roomLimit ++ " bytes."

/-- A pattern, unless it is too big. -/
def checked (p : Pattern) : Except Error Pattern := if p.isTooBig then .error .tooBig else .ok p

/-- The pattern that a text denotes. -/
def ofText? (text : List Char) : Except Error Pattern :=
  match Expression.ofText text with
  | .error r => .error (.refused text r)
  | .ok e =>
    match e.meaning Flags.initial with
    | .error r => .error (.refused text r)
    | .ok (p, _) => p.checked

end Compliance.Pattern
