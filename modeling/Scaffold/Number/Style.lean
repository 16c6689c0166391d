import Scaffold.Number.Shortest

/-!
# Text of numbers

The digits of a number are the shortest ones; a style says where positional notation begins,
how many digits an exponent has and what stands for the values that are not finite.
-/

namespace Scaffold

/-- The decisions of a number format.  A first digit at `10 ^ lowest` up to `10 ^ 15` is
    written positionally, every other with an exponent. -/
structure NumberStyle where
  lowest : Int
  /-- The least number of digits of an exponent. -/
  exponentDigits : Nat
  infinity : String
  negativeInfinity : String
  notANumber : String

namespace NumberStyle

/-- The decimal digits of a natural number. -/
def decimalDigits (n : Nat) : List Char := Nat.toDigits 10 n

/-- A number written without exponent, given its digits and the power of the first one. -/
def positional (ds : List Char) (first : Int) : List Char :=
  if first < 0 then '0' :: '.' :: (List.replicate (-first - 1).toNat '0' ++ ds)
  else
    let whole := first.toNat + 1
    if ds.length ≤ whole then ds ++ List.replicate (whole - ds.length) '0' ++ ['.', '0']
    else ds.take whole ++ '.' :: ds.drop whole

/-- An exponent: its sign, which is always written, and at least the digits of the style. -/
def exponentText (style : NumberStyle) (e : Int) : List Char :=
  let ds := decimalDigits e.natAbs
  (if e < 0 then '-' else '+') :: List.replicate (style.exponentDigits - ds.length) '0' ++ ds

/-- A number written with an exponent. -/
def scientific (style : NumberStyle) (ds : List Char) (first : Int) : List Char :=
  let mantissa := match ds with
    | [] => []
    | [d] => [d]
    | d :: rest => d :: '.' :: rest
  mantissa ++ 'e' :: style.exponentText first

/-- The text of a number. -/
def format (style : NumberStyle) : Binary64 → String
  | .nan => style.notANumber
  | .infinite false => style.infinity
  | .infinite true => style.negativeInfinity
  | .finite s m e =>
    let sign := if s then ['-'] else []
    if m = 0 then String.ofList (sign ++ ['0', '.', '0'])
    else
      let (digits, power) := Shortest.digits m e
      let ds := decimalDigits digits
      let first := power + ds.length - 1
      let body := if style.lowest ≤ first ∧ first < 16 then positional ds first
        else style.scientific ds first
      String.ofList (sign ++ body)

end NumberStyle

/-- Two decimal places, a half going to the even neighbour. -/
def twoPlaces : Binary64 → String
  | .nan => "nan"
  | .infinite false => "inf"
  | .infinite true => "-inf"
  | .finite s m e =>
    let hundredths := Binary64.countPlaces 2 m e
    let ds := NumberStyle.decimalDigits (hundredths % 100)
    (if s then "-" else "") ++ toString (hundredths / 100) ++ "." ++
      String.ofList (List.replicate (2 - ds.length) '0' ++ ds)

end Scaffold
