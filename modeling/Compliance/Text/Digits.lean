/-!
# Compliance.Text.Digits

Decimal digits: reading a run of them and writing a number with them.

* `padded`        — the digits of a number with zeros in front up to a width.
* `intDigits`     — the text of an integer.
* `takeDigits`    — a text split after its leading digits.
* `natOfText?`    — the number a whole text denotes.
* `intOfText?`    — the integer a whole text denotes.
* `natOfHex`      — the number a run of hexadecimal digits denotes.
-/

namespace Compliance.Text

/-- The decimal digits of a number; zero is written `0`. -/
def digits (n : Nat) : List Char := Nat.toDigits 10 n

/-- The number that a run of digits denotes, most significant digit first. -/
def natOfDigits (ds : List Char) : Nat := Nat.ofDigitChars 10 ds 0

/-- The digits of `n` with zeros in front, at least `width` of them. -/
def padded (width n : Nat) : List Char :=
  List.replicate (width - (digits n).length) '0' ++ digits n

/-- The text of an integer: a minus sign stands in front of a negative one. -/
def intDigits : Int → List Char
  | .ofNat n => digits n
  | .negSucc n => '-' :: digits (n + 1)

/-- The leading digits of a text, and what follows them. -/
def takeDigits (cs : List Char) : List Char × List Char := cs.span Char.isDigit

/-- A plus sign in front of a number adds nothing. -/
def dropPlus : List Char → List Char
  | '+' :: cs => cs
  | cs => cs

/-- The number denoted by a non-empty run of digits; any other character refuses the text. -/
def unsigned? (cs : List Char) : Option Nat :=
  if cs.isEmpty || !cs.all Char.isDigit then none else some (natOfDigits cs)

/-- The number a text denotes, with an optional plus sign in front. -/
def natOfText? (cs : List Char) : Option Nat := unsigned? (dropPlus cs)

/-- The integer a text denotes, with an optional sign in front. -/
def intOfText? : List Char → Option Int
  | '-' :: cs => (unsigned? cs).map fun n => -(n : Int)
  | cs => (natOfText? cs).map Int.ofNat

/-- The value of a hexadecimal digit; upper and lower case count alike. -/
def hexDigit? (c : Char) : Option Nat :=
  if '0' ≤ c && c ≤ '9' then some (c.toNat - 48)
  else if 'a' ≤ c && c ≤ 'f' then some (c.toNat - 87)
  else if 'A' ≤ c && c ≤ 'F' then some (c.toNat - 55)
  else none

/-- The number that hexadecimal digits denote. -/
def natOfHex (ds : List Char) : Nat := ds.foldl (fun n d => 16 * n + (hexDigit? d).getD 0) 0

/-- The signed integers of sixty-four bits. -/
def fitsInt64 (z : Int) : Bool := -9223372036854775808 ≤ z && z ≤ 9223372036854775807

/-- The unsigned integers of sixty-four bits. -/
def fitsNat64 (n : Nat) : Bool := n ≤ 18446744073709551615

end Compliance.Text
