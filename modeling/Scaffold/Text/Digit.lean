import Scaffold.Text.Category.Table

/-!
# Decimal digits

Every script has its own ten digits.  They stand next to each other in order, so the value of a
digit is its distance from the beginning of its run, counted in tens.
-/

namespace Scaffold.Text

/-- Whether a character is a decimal digit of any script. -/
def isAnyDigit (c : Char) : Bool := category c == .decimalNumber

/-- The value of a decimal digit of any script. -/
def digitValue (c : Char) : Nat :=
  if c.toNat < 128 then c.toNat - '0'.toNat
  else
    let index := floorIndex Category.runs (c.toNat * 256 + 255) 12 0
    (c.toNat - Category.runs.getD index 0 / 256) % 10

/-- The number that is written with digits of any script. -/
def numberOf (digits : List Char) : Nat := digits.foldl (fun n c => n * 10 + digitValue c) 0

end Scaffold.Text
