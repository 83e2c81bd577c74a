import Compliance.Toml.Cursor

/-!
# Compliance.Toml.Number

Integers and floating-point numbers.

* `readNumber` — a number in front of its sign or first digit.
-/

namespace Compliance.Toml

/-- The digits up to the first character that is none. An underscore stands between two digits
and adds nothing. -/
def moreDigits (isDigit : Char → Bool) (fault : Fault) (offset : Nat) :
    List Char → Except Error (List Char × Cursor)
  | '_' :: d :: rest =>
    if isDigit d then
      (moreDigits isDigit fault (offset + 2) rest).map fun (ds, c) => (d :: ds, c)
    else .error (Cursor.fault ⟨d :: rest, offset + 1⟩ fault)
  | ['_'] => .error (Cursor.fault ⟨[], offset + 1⟩ fault)
  | d :: rest =>
    if isDigit d then
      (moreDigits isDigit fault (offset + 1) rest).map fun (ds, c) => (d :: ds, c)
    else .ok ([], ⟨d :: rest, offset⟩)
  | [] => .ok ([], ⟨[], offset⟩)

/-- A run of digits. `first` is the fault of a text without a digit, `later` that of an underscore
without a digit behind it. -/
def readDigits (isDigit : Char → Bool) (first later : Fault) (c : Cursor) :
    Except Error (List Char × Cursor) :=
  match c.rest with
  | d :: rest =>
    if isDigit d then
      (moreDigits isDigit later (c.offset + 1) rest).map fun (ds, c) => (d :: ds, c)
    else .error (c.fault first)
  | [] => .error (c.fault first)

def expectingDigit (s : Subject) : Fault := ⟨some s, [.digit], none⟩

/-- The sign of a number, and what follows it. -/
def readSign (c : Cursor) : Bool × Cursor :=
  match c.next? with
  | some '-' => (true, c.skip 1)
  | some '+' => (false, c.skip 1)
  | _ => (false, c)

/-- The digits of an integer part; a zero in front stands alone. -/
def readWhole (c : Cursor) : Except Stop (List Char × Cursor) :=
  match c.rest with
  | '0' :: _ => .ok (['0'], c.skip 1)
  | d :: _ =>
    if d.isDigit then
      (readDigits Char.isDigit (.inside .integer) (expectingDigit .integer) c).mapError .broken
    else c.refuse (.inside .integer)
  | [] => c.refuse (.inside .integer)

/-! ## Integers -/

/-- An integer, if it is one of sixty-four bits. -/
def integer (start : Cursor) (z : Int) (c : Cursor) : Except Stop (Scalar × Cursor) :=
  if Text.fitsInt64 z then .ok (.int z, c)
  else start.breakOff (.because (if z < 0 then .tooSmall else .tooLarge))

/-- The number that digits denote to a base. -/
def natOfBase (base : Nat) (ds : List Char) : Nat :=
  ds.foldl (fun n d => base * n + (Text.hexDigit? d).getD 0) 0

/-- Reads an integer to a base behind the two characters that name the base. -/
def readBased (base : Nat) (subject : Subject) (start : Cursor) :
    Except Stop (Scalar × Cursor) :=
  let isDigit (d : Char) : Bool := (Text.hexDigit? d).any (Nat.blt · base)
  match readDigits isDigit (.inside subject) (expectingDigit subject) (start.skip 2) with
  | .error e => .error (.broken e)
  | .ok (ds, c) => integer start (natOfBase base ds) c

/-! ## Floating-point numbers -/

/-- The number `digits * 10 ^ exponent`. Numbers above the range are refused, numbers below it are
infinite. -/
def realNumber (start : Cursor) (negative : Bool) (digits : List Char) (exponent : Int)
    (c : Cursor) : Except Stop (Scalar × Cursor) :=
  match Binary64.nearest? negative (Text.natOfDigits digits) exponent with
  | some x => .ok (.real x, c)
  | none => if negative then .ok (.infinite true, c) else start.breakOff (.inside .real)

/-- Reads the exponent of `digits * 10 ^ (-places)`, behind its letter. -/
def readExponent (start : Cursor) (negative : Bool) (digits : List Char) (places : Nat)
    (c : Cursor) : Except Stop (Scalar × Cursor) :=
  let (minus, c) := readSign c
  match readDigits Char.isDigit (.inside .real) (expectingDigit .real) c with
  | .error e => .error (.broken e)
  | .ok (ds, c) =>
    let k := Text.natOfDigits ds
    realNumber start negative digits ((if minus then -(k : Int) else k) - places) c

def seesExponent (c : Cursor) : Bool := c.sees 'e' || c.sees 'E'

/-- Reads the places of a number behind its point, and its exponent. -/
def readPlaces (start : Cursor) (negative : Bool) (digits : List Char) (c : Cursor) :
    Except Stop (Scalar × Cursor) :=
  let later : Fault := ⟨some .real, [.digit, .digit], none⟩
  match readDigits Char.isDigit (expectingDigit .real) later c with
  | .error e => .error (.broken e)
  | .ok (ds, c) =>
    if seesExponent c then readExponent start negative (digits ++ ds) ds.length (c.skip 1)
    else realNumber start negative (digits ++ ds) (-(ds.length : Int)) c

/-! ## Numbers -/

/-- Reads a number to base ten behind its sign. -/
def readDecimal (start : Cursor) (negative : Bool) (c : Cursor) :
    Except Stop (Scalar × Cursor) :=
  match readWhole c with
  | .error s => .error s
  | .ok (ds, c) =>
    if seesExponent c then readExponent start negative ds 0 (c.skip 1)
    else if c.sees '.' then readPlaces start negative ds (c.skip 1)
    else
      let n := Text.natOfDigits ds
      integer start (if negative then -(n : Int) else n) c

/-- Reads a number in front of its sign or first digit. -/
def readNumber (start : Cursor) : Except Stop (Scalar × Cursor) :=
  let (negative, c) := readSign start
  if c.startsWith ['i', 'n', 'f'] then .ok (.infinite negative, c.skip 3)
  else if c.startsWith ['n', 'a', 'n'] then .ok (.notANumber, c.skip 3)
  else if start.startsWith ['0', 'x'] then readBased 16 .hexadecimal start
  else if start.startsWith ['0', 'o'] then readBased 8 .octal start
  else if start.startsWith ['0', 'b'] then readBased 2 .binary start
  else readDecimal start negative c

end Compliance.Toml
