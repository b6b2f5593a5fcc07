import Aliquot.Powers

/-!
# The length of decimal numerals

The time that it takes to convert an integer to a decimal numeral or back grows with the square of
the number of digits. Numerals of more than 4300 digits are therefore neither read nor written.

The limit is the runtime's.
-/

namespace Aliquot.Text

/-- The number of digits up to which numerals are converted. -/
def digitLimit : Nat := 4300

/-- The decimal numeral of the integer has more digits than are converted. -/
def isLong (k : Int) : Bool := decide (tenPow digitLimit ≤ k.natAbs)

end Aliquot.Text
