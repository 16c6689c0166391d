import Scaffold.Number.Binary64

/-!
# Decimal text

The text of a number: an optional sign, digits with an optional point, and an optional
exponent.  Digits are read by their value in base ten.
-/

namespace Scaffold.Decimal

/-- Whether a character is a decimal digit. -/
def isDigit (c : Char) : Bool := '0' ≤ c && c ≤ '9'

/-- The value of a string of digits that follow a number of value `acc`. -/
def valueFrom (acc : Nat) (ds : List Char) : Nat :=
  ds.foldl (fun n d => n * 10 + (d.toNat - '0'.toNat)) acc

/-- The value of a string of digits. -/
def value (ds : List Char) : Nat := valueFrom 0 ds

/-- The digits at the beginning, and what follows. -/
def takeDigits (cs : List Char) : List Char × List Char := cs.span isDigit

/-- The parts of a number that is not an integer, as they are read: sign, digits before and
    after the point, and the exponent. -/
structure Parts where
  negative : Bool
  whole : List Char
  fraction : List Char
  exponent : Int

/-- The number nearest to the given parts. -/
def Parts.toBinary64 (p : Parts) : Binary64 :=
  .ofDecimal p.negative (value (p.whole ++ p.fraction)) (p.exponent - p.fraction.length)

/-- An optional sign, and what follows. -/
def takeSign : List Char → Bool × List Char
  | '-' :: cs => (true, cs)
  | '+' :: cs => (false, cs)
  | cs => (false, cs)

/-- An exponent mark with its integer, if there is one, and what follows. -/
def takeExponent? : List Char → Option (Int × List Char)
  | c :: cs =>
    if c = 'e' ∨ c = 'E' then
      let (negative, cs) := takeSign cs
      match takeDigits cs with
      | ([], _) => none
      | (ds, rest) => some (if negative then -(value ds) else value ds, rest)
    else none
  | [] => none

/-- A number written with an optional sign, point and exponent, and at least one digit before
    the exponent. -/
def parseNumber? (cs : List Char) : Option Binary64 :=
  let (negative, cs) := takeSign cs
  let (whole, cs) := takeDigits cs
  let (fraction, cs) := match cs with
    | '.' :: rest => takeDigits rest
    | _ => ([], cs)
  if whole.isEmpty && fraction.isEmpty then none
  else
    match cs with
    | [] => some (Parts.toBinary64 ⟨negative, whole, fraction, 0⟩)
    | _ =>
      match takeExponent? cs with
      | some (e, []) => some (Parts.toBinary64 ⟨negative, whole, fraction, e⟩)
      | _ => none

end Scaffold.Decimal
