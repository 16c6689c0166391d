import Scaffold.Number.Binary64

/-!
# Shortest digits

A number is written with the fewest digits that read back as the same number; of two texts of
that length, with the one nearer to it.
-/

namespace Scaffold.Shortest

/-- Raises `power` by at most `steps` while `10 ^ (power + 1) ≤ num / den`. -/
def raise (num den : Nat) : (steps : Nat) → (power : Int) → Int
  | 0, power => power
  | steps + 1, power =>
    let (a, b) := scaleRatio 10 num den (-(power + 1))
    if b ≤ a then raise num den steps (power + 1) else power

/-- The power of ten of the first digit of `num / den`. -/
def firstPower (num den : Nat) : Int :=
  let spread : Int := num.log2 - den.log2
  raise num den 5 (Int.fdiv (spread * 30103) 100000 - 2)

/-- The digits of `num / den` counted in units of `10 ^ power` that read back as `x`: the
    nearest count if it does, else its other neighbour. -/
def onGrid? (x : Binary64) (num den : Nat) (power : Int) : Option Nat :=
  let (a, b) := scaleRatio 10 num den (-power)
  let nearest := roundDiv a b
  let other := if nearest = a / b then nearest + 1 else a / b
  if Binary64.ofDecimal false nearest power = x then some nearest
  else if Binary64.ofDecimal false other power = x then some other
  else none

/-- The first grid, of `count` digits and then up to `more` further ones, with a text that reads
    back, and that text's digits with the power of ten of the last one. -/
def search (x : Binary64) (num den : Nat) (first : Int) : (more count : Nat) → Nat × Int
  | 0, count => (roundDiv num den, first - count + 1)
  | more + 1, count =>
    match onGrid? x num den (first - count + 1) with
    | some digits => (digits, first - count + 1)
    | none => search x num den first more (count + 1)

/-- The number without the zeros at its end, and how many there were, at most `limit`. -/
def dropZeros : (limit digits : Nat) → Nat × Nat
  | 0, digits => (digits, 0)
  | limit + 1, digits =>
    if digits ≠ 0 ∧ digits % 10 = 0 then
      let (rest, zeros) := dropZeros limit (digits / 10)
      (rest, zeros + 1)
    else (digits, 0)

/-- The shortest digits of `mantissa · 2 ^ exponent`, which is not zero, and the power of ten
    of the last of them. -/
def digits (mantissa : Nat) (exponent : Int) : Nat × Int :=
  let (num, den) := Binary64.ratio mantissa exponent
  let (found, power) := search (.finite false mantissa exponent) num den (firstPower num den) 17 1
  let (rest, zeros) := dropZeros 20 found
  (rest, power + zeros)

end Scaffold.Shortest
