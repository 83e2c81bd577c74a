/-!
# Compliance.Text.Blank

White space in the sense of the Unicode property `White_Space`.

* `isBlank` — membership in the property.
* `trim`    — a text without the blanks at its two ends.
-/

namespace Compliance.Text

/-- The twenty-five code points with the property `White_Space`. -/
def isBlank (c : Char) : Bool :=
  let n := c.toNat
  (9 ≤ n && n ≤ 13) || n == 0x20 || n == 0x85 || n == 0xA0 || n == 0x1680 ||
    (0x2000 ≤ n && n ≤ 0x200A) || n == 0x2028 || n == 0x2029 || n == 0x202F || n == 0x205F ||
    n == 0x3000

def trimLeft (cs : List Char) : List Char := cs.dropWhile isBlank

def trimRight (cs : List Char) : List Char := (cs.reverse.dropWhile isBlank).reverse

/-- Blanks are removed from both ends and kept in between. -/
def trim (cs : List Char) : List Char := trimRight (trimLeft cs)

end Compliance.Text
