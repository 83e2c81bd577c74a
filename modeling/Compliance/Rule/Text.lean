import Compliance.Instant.Rfc3339
import Compliance.Rule

/-!
# Compliance.Rule.Text

The one canonical text of a rule and of its parts. Every conjunction and disjunction stands in
parentheses and nothing else does, a quote inside a text is written twice, and one blank
separates words.
-/

namespace Compliance

/-- Quotes inside a text are doubled. -/
def doubleQuotes : List Char → List Char
  | [] => []
  | c :: cs => if c == '\'' then '\'' :: '\'' :: doubleQuotes cs else c :: doubleQuotes cs

def Operand.render : Operand → String
  | .variable path => path
  | .text s => "'" ++ String.ofList (doubleQuotes s.toList) ++ "'"
  | .number d => d.text
  | .bool true => "TRUE"
  | .bool false => "FALSE"
  | .instant t => t.text
  | .span amount unit => String.ofList (Text.intDigits amount) ++ " " ++ unit.keyword
  | .null => "NULL"
  | .call name => name ++ "()"

/-- Operands in brackets, with commas in between. -/
def Operand.renderList (values : List Operand) : String :=
  "[" ++ String.intercalate ", " (values.map Operand.render) ++ "]"

/-- `EXPIRES` is followed by `AFTER`. -/
def TimeTest.phrase : TimeTest → String
  | .expires => "EXPIRES AFTER"
  | op => op.keyword

def Condition.render : Condition → String
  | .comparison left op right => left.render ++ " " ++ op.keyword ++ " " ++ right.render
  | .membership value values => value.render ++ " IN " ++ Operand.renderList values
  | .textTest value op pattern => value.render ++ " " ++ op.keyword ++ " " ++ pattern.render
  | .timeTest value op reference => value.render ++ " " ++ op.phrase ++ " " ++ reference.render
  | .logical left op right =>
    "(" ++ left.render ++ " " ++ op.keyword ++ " " ++ right.render ++ ")"
  | .negation inner => "NOT " ++ inner.render
  | .truthiness value => value.render

def Demand.verb : Demand → String
  | .required => "REQUIRE"
  | .recommended => "RECOMMEND"

def Consequence.render : Consequence → String
  | .comparison left op right => left.render ++ " " ++ op.keyword ++ " " ++ right.render
  | .membership value false values => value.render ++ " IN " ++ Operand.renderList values
  | .membership value true values => value.render ++ " NOT IN " ++ Operand.renderList values
  | .range value lower upper =>
    value.render ++ " BETWEEN " ++ lower.render ++ " AND " ++ upper.render
  | .presence value demand => demand.verb ++ " " ++ value.render
  | .logical left op right =>
    "(" ++ left.render ++ " " ++ op.keyword ++ " " ++ right.render ++ ")"
  | .negation inner => "NOT " ++ inner.render
  | .literal true => "TRUE"
  | .literal false => "FALSE"
  | .truthiness value => value.render

/-- The label stands as it is, without quotes. -/
def Action.render (a : Action) : String :=
  a.verb.keyword ++ " " ++ a.target.render ++ " " ++ a.label

def Rule.Body.render : Rule.Body → String
  | .consequence c => c.render
  | .action a => a.render

def Rule.render (r : Rule) : String :=
  "WHEN " ++ r.condition.render ++ " THEN MUST " ++ r.body.render

end Compliance
