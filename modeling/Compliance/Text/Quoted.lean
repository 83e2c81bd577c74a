import Compliance.Character.Property

/-!
# Compliance.Text.Quoted

Texts between double quotes, with everything escaped that does not show.

* `quoted` — the text of a text.
-/

namespace Compliance.Text

/-- The characters that do not show: those of the categories below, except the plain blank. -/
def hidden : CharSet :=
  (Character.Category.setOf
    [.control, .format, .privateUse, .unassigned, .spaceSeparator, .lineSeparator,
     .paragraphSeparator]).diff (CharSet.single ' ')

/-- The lower-case hexadecimal digits of a number. -/
def hexDigits (n : Nat) : List Char := Nat.toDigits 16 n

/-- A character between quotes. Characters that extend the one in front of them are escaped where
there is none in front. -/
def quotedChar (isFirst : Bool) (c : Char) : List Char :=
  match c with
  | '"' => ['\\', '"']
  | '\\' => ['\\', '\\']
  | '\n' => ['\\', 'n']
  | '\r' => ['\\', 'r']
  | '\t' => ['\\', 't']
  | '\x00' => ['\\', '0']
  | c =>
    if hidden.contains c || (isFirst && Character.Property.graphemeExtend.contains c) then
      ['\\', 'u', '\x7b'] ++ hexDigits c.toNat ++ ['\x7d']
    else [c]

def quotedFrom : Bool → List Char → List Char
  | _, [] => []
  | isFirst, c :: cs => quotedChar isFirst c ++ quotedFrom false cs

/-- A text between double quotes. -/
def quoted (s : String) : String := String.ofList ('"' :: (quotedFrom true s.toList ++ ['"']))

end Compliance.Text
