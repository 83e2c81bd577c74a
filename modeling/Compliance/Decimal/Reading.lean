import Compliance.Decimal

/-!
# Compliance.Decimal.Reading

Decimals from text.

* `Decimal.ReadError`      — why a text is no decimal.
* `Decimal.ofPlain?`       — plain notation: a sign, digits, one point; underscores may stand
  after the first digit, and places beyond the last one that fits are rounded away.
* `Decimal.ofScientific?`  — a plain part, `e` or `E`, and an exponent of ten.
* `Decimal.ofText?`        — either notation, the plain one first.
-/

namespace Compliance.Decimal

inductive ReadError where
  /-- The text holds no digit. -/
  | noDigits
  /-- A second point. -/
  | secondPoint
  /-- An underscore in front of the first digit. -/
  | leadingUnderscore
  | unknownCharacter
  /-- The integer part does not fit. -/
  | tooManyDigits
  /-- Rounding the first lost place up makes the integer part too large. -/
  | roundsTooHigh
  /-- The scientific form lacks an exponent, or the exponent is no number. -/
  | noExponent
  /-- The exponent asks for more places, or more zeros, than a decimal has. -/
  | scaleTooLarge (scale : Nat)
  /-- The value is too large. -/
  | tooLarge
  deriving DecidableEq

/-- The wording of each cause. -/
def ReadError.message : ReadError → String
  | .noDigits => "Invalid decimal: no digits found"
  | .secondPoint => "Invalid decimal: two decimal points"
  | .leadingUnderscore => "Invalid decimal: must start lead with a number"
  | .unknownCharacter => "Invalid decimal: unknown character"
  | .tooManyDigits => "Invalid decimal: overflow from too many digits"
  | .roundsTooHigh => "Invalid decimal: overflow from mantissa after rounding"
  | .noExponent => "Failed to parse"
  | .scaleTooLarge scale =>
    "Scale exceeds the maximum precision allowed: " ++ String.ofList (Text.digits scale) ++ " > 28"
  | .tooLarge => "Number exceeds maximum value that can be represented."

/-- What a character that cannot continue a decimal is refused as. -/
def refusal : Char → ReadError
  | '.' => .secondPoint
  | '_' => .leadingUnderscore
  | _ => .unknownCharacter

/-- The magnitude `mantissa / 10 ^ scale` with a sign. -/
def signed? (negative : Bool) (mantissa scale : Nat) : Option Decimal :=
  ofParts? (if negative then -(mantissa : Int) else mantissa) scale

/-- Drops all places from the next character on. A digit of five or more rounds up; where the
mantissa is full already, one more place is given up for the carry. -/
def roundAt (negative : Bool) (mantissa scale : Nat) (next : Char) : Except ReadError Decimal :=
  if !next.isDigit && next != '_' && next != '.' then .error (refusal next)
  else
    let carry := if next.isDigit && 5 ≤ next.toNat - '0'.toNat then 1 else 0
    match signed? negative (mantissa + carry) scale with
    | some d => .ok d
    | none =>
      if scale == 0 then .error .roundsTooHigh
      else
        match signed? negative ((mantissa + carry + 4) / 10) (scale - 1) with
        | some d => .ok d
        | none => .error .roundsTooHigh

/-- Reads the rest of a decimal. `point` and `digit` say whether a point and a digit have been
seen, `mantissa` and `scale` what they amount to so far. -/
def readPlain (negative : Bool) (point digit : Bool) (mantissa scale : Nat) :
    List Char → Except ReadError Decimal
  | [] =>
    if !digit then .error .noDigits
    else
      match signed? negative mantissa scale with
      | some d => .ok d
      | none => .error .tooManyDigits
  | c :: cs =>
    if c.isDigit then
      let mantissa' := 10 * mantissa + (c.toNat - '0'.toNat)
      let scale' := if point then scale + 1 else 0
      if bound ≤ mantissa' then
        if point then roundAt negative mantissa scale c else .error .tooManyDigits
      else
        match cs with
        | next :: _ =>
          if maxScale ≤ scale' then roundAt negative mantissa' scale' next
          else readPlain negative point true mantissa' scale' cs
        | [] => readPlain negative point true mantissa' scale' cs
    else if c == '.' && !point then readPlain negative true digit mantissa scale cs
    else if c == '_' && digit then readPlain negative point digit mantissa scale cs
    else .error (refusal c)

/-- A decimal in plain notation. -/
def ofPlain? : List Char → Except ReadError Decimal
  | '-' :: cs => readPlain true false false 0 0 cs
  | '+' :: cs => readPlain false false false 0 0 cs
  | cs => readPlain false false false 0 0 cs

/-- The part in front of the first `e` or `E`, and the part behind it. -/
def splitExponent? : List Char → Option (List Char × List Char)
  | [] => none
  | c :: cs =>
    if c == 'e' || c == 'E' then some ([], cs)
    else (splitExponent? cs).map fun (base, exponent) => (c :: base, exponent)

/-- The exponents are numbers of thirty-two bits. -/
def exponentBound : Nat := 4294967296

def exponent? (cs : List Char) : Option Nat :=
  (Text.natOfText? cs).filter (· < exponentBound)

/-- The same digits with another number of places. -/
def withScale (d : Decimal) (scale : Nat) : Except ReadError Decimal :=
  if h : scale ≤ maxScale then .ok ⟨d.mantissa, scale, d.mantissa_lt, h⟩
  else .error (.scaleTooLarge scale)

/-- The greatest power of ten that one multiplication applies. -/
def maxStep : Nat := 19

/-- Multiplies by `10 ^ k`, in steps of at most `maxStep`. -/
def shiftLeft (d : Decimal) (k : Nat) : Except ReadError Decimal :=
  if k = 0 then .ok d
  else
    match (ofInt? (pow10 (if k < maxStep then k else maxStep))).bind (times? d) with
    | some shifted => shiftLeft shifted (k - maxStep)
    | none => .error .tooLarge
termination_by k
decreasing_by simp only [maxStep]; omega

/-- A decimal in scientific notation. A negative exponent moves the point to the left and may
leave the range of places; a positive one uses up the places first. -/
def ofScientific? (cs : List Char) : Except ReadError Decimal :=
  match splitExponent? cs with
  | none => .error .noExponent
  | some (base, exponent) => do
    let d ← ofPlain? base
    match exponent with
    | '-' :: ds =>
      match exponent? ds with
      | none => .error .noExponent
      | some k => withScale d ((d.scale + k) % exponentBound)
    | ds =>
      match exponent? ds with
      | none => .error .noExponent
      | some k =>
        if k ≤ d.scale then withScale d (d.scale - k)
        else if maxScale < k then .error (.scaleTooLarge k)
        else (shiftLeft d k).map normalize

/-- A decimal in either notation; the error is that of the scientific one. -/
def ofText? (cs : List Char) : Except ReadError Decimal :=
  match ofPlain? cs with
  | .ok d => .ok d
  | .error _ => ofScientific? cs

end Compliance.Decimal
