/-!
# Blank characters

The characters that may surround a numeral: the blanks of ASCII and the space separators and line
ends beyond it.

The runtime skips them where `parse` in `bezout.sign_magnitude` reads a numeral.
-/

namespace Aliquot.Text

/-- The character may stand before or after a numeral. -/
def isBlank (c : Char) : Bool :=
  let n := c.toNat
  (9 ≤ n && n ≤ 13) || n == 0x20 || n == 0x85 || n == 0xa0 || n == 0x1680 ||
    (0x2000 ≤ n && n ≤ 0x200a) || n == 0x2028 || n == 0x2029 || n == 0x202f || n == 0x205f ||
    n == 0x3000

/-- The text without the blanks at both ends. -/
def trimBlanks (cs : List Char) : List Char :=
  (((cs.dropWhile isBlank).reverse).dropWhile isBlank).reverse

end Aliquot.Text
