import Compliance.Decimal.Reading
import Compliance.Rule.Text
import Compliance.Token

/-!
# Compliance.Diagnostic

What can be wrong with the text of a rule, and where.

* `Fault`              — the causes.
* `Fault.message`      — the wording of a cause.
* `Diagnostic`         — a cause at a position.
* `Diagnostic.display` — position and wording in one line.
-/

namespace Compliance

inductive Fault where
  -- What cannot be a token.
  | unterminatedText
  | letterAfterNumber (number : String)
  | unexpectedCharacter (c : Char)
  -- What cannot be a rule.
  | emptyRule
  | missingBody
  | expectedWord (word : String) (got : Token)
  | trailingToken (got : Token)
  -- What cannot be an operand.
  | expectedValue (got : Token)
  | keywordAsValue (word : String)
  | badNumber (number : String) (cause : Decimal.ReadError)
  | badInstant (text : String)
  | fractionalSpan (number : String)
  | dottedFunction (path : String)
  | unclosedCall (got : Token)
  | expectedSpan (got : Operand)
  | expectedListStart (got : Token)
  | expectedListEnd (got : Token)
  -- What cannot be a condition, a consequence or an action.
  | unclosedParen (got : Token)
  | demandNeedsVariable (got : Operand)
  | expectedConstraint (value : Operand) (got : Token)
  | targetNeedsVariable (verb : Verb) (got : Operand)
  | expectedLabel (verb : Verb) (got : Token)
  deriving DecidableEq

def Fault.message : Fault → String
  | .unterminatedText => "unterminated string literal"
  | .letterAfterNumber number => "invalid numeric literal starting '" ++ number ++ "'"
  | .unexpectedCharacter c => "unexpected character '" ++ c.toString ++ "'"
  | .emptyRule => "empty rule: expected 'WHEN'"
  | .missingBody => "expected a consequence or action after 'THEN MUST'"
  | .expectedWord word got => "expected '" ++ word ++ "', got " ++ got.describe
  | .trailingToken got => "unexpected " ++ got.describe ++ " after end of rule"
  | .expectedValue got => "expected a value, got " ++ got.describe
  | .keywordAsValue word => "expected a value, got keyword '" ++ word ++ "'"
  | .badNumber number cause => "invalid number '" ++ number ++ "': " ++ cause.message
  | .badInstant text => "invalid datetime literal '" ++ text ++ "'"
  | .fractionalSpan number => "duration magnitude must be an integer, got " ++ number
  | .dottedFunction path => "'" ++ path ++ "' is not a function name"
  | .unclosedCall got => "expected ')' to close function call, got " ++ got.describe
  | .expectedSpan got => "expected a duration such as '30 MINUTES', got " ++ got.render
  | .expectedListStart got => "expected '[' to open value list, got " ++ got.describe
  | .expectedListEnd got => "expected ',' or ']' in value list, got " ++ got.describe
  | .unclosedParen got => "expected ')', got " ++ got.describe
  | .demandNeedsVariable got => "requirement needs a variable, got " ++ got.render
  | .expectedConstraint value got =>
    "expected a constraint on " ++ value.render ++ ", got " ++ got.describe
  | .targetNeedsVariable verb got =>
    verb.keyword ++ " target must be a variable, got " ++ got.render
  | .expectedLabel verb got =>
    "expected label after " ++ verb.keyword ++ " target, got " ++ got.describe

structure Diagnostic where
  position : Position
  fault : Fault
  deriving DecidableEq

namespace Diagnostic

def message (d : Diagnostic) : String := d.fault.message

def display (d : Diagnostic) : String :=
  "line " ++ String.ofList (Text.digits d.position.line) ++ ", column " ++
    String.ofList (Text.digits d.position.column) ++ ": " ++ d.message

end Diagnostic

end Compliance
