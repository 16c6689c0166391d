/-!
# Double precision numbers

A finite number is a sign, a mantissa and a power of two; every rational has a nearest one, and
arithmetic is exact arithmetic followed by one such rounding, ties going to the even mantissa.
Finite numbers are kept in one form: the mantissa has 53 bits unless the exponent is the least.
-/

namespace Scaffold

/-- A double precision number: `finite negative m e` is `m · 2 ^ e`, negated if `negative`. -/
inductive Binary64 where
  | finite (negative : Bool) (mantissa : Nat) (exponent : Int)
  | infinite (negative : Bool)
  | nan
  deriving DecidableEq, Repr, Inhabited

/-- The integer nearest to `num / den`, the even one of two. -/
def roundDiv (num den : Nat) : Nat :=
  let quotient := num / den
  let twice := 2 * (num % den)
  if twice < den then quotient
  else if den < twice then quotient + 1
  else quotient + quotient % 2

theorem roundDiv_one (n : Nat) : roundDiv n 1 = n := by
  simp [roundDiv, Nat.mod_one]

/-- `num / den · base ^ power` as a quotient of naturals. -/
def scaleRatio (base num den : Nat) (power : Int) : Nat × Nat :=
  if 0 ≤ power then (num * base.pow power.toNat, den) else (num, den * base.pow (-power).toNat)

namespace Binary64

/-- The least exponent of a finite number. -/
def minExponent : Int := -1074

/-- The greatest exponent of a finite number. -/
def maxExponent : Int := 971

/-- Zero of the given sign. -/
def zero (negative : Bool) : Binary64 := .finite negative 0 minExponent

/-- The exponent at which `num / den` has a mantissa of 53 bits, or the least one. -/
def exponentOf (num den : Nat) : Int :=
  let spread : Int := num.log2 - den.log2
  let (a, b) := scaleRatio 2 num den (-spread)
  let exact := if a < b then spread - 53 else spread - 52
  if exact < minExponent then minExponent else exact

/-- The number nearest to `num / den`, with the given sign. -/
def ofRatio (negative : Bool) (num den : Nat) : Binary64 :=
  if num = 0 then zero negative
  else
    let e := exponentOf num den
    let (a, b) := scaleRatio 2 num den (-e)
    let m := roundDiv a b
    let (m, e) := if m = Nat.pow 2 53 then (Nat.pow 2 52, e + 1) else (m, e)
    if maxExponent < e then .infinite negative else .finite negative m e

/-- The number nearest to an integer. -/
def ofInt (n : Int) : Binary64 := ofRatio (n < 0) n.natAbs 1

/-- The number nearest to `digits · 10 ^ power`. -/
def ofDecimal (negative : Bool) (digits : Nat) (power : Int) : Binary64 :=
  let magnitude : Int := (Nat.toDigits 10 digits).length + power
  if digits = 0 then zero negative
  else if 310 < magnitude then .infinite negative
  else if magnitude < -330 then zero negative
  else
    let (a, b) := scaleRatio 10 digits 1 power
    ofRatio negative a b

/-- The magnitude of a finite number as a quotient. -/
def ratio (mantissa : Nat) (exponent : Int) : Nat × Nat := scaleRatio 2 mantissa 1 exponent

/-- Whether a number carries a minus sign. -/
def isNegative : Binary64 → Bool
  | .finite s _ _ => s
  | .infinite s => s
  | .nan => false

/-- The opposite number. -/
def neg : Binary64 → Binary64
  | .finite s m e => .finite (!s) m e
  | .infinite s => .infinite (!s)
  | .nan => .nan

/-- A signed numerator over `2 ^ minExponent`. -/
def scaledInt (negative : Bool) (mantissa : Nat) (exponent : Int) : Int :=
  let magnitude : Int := (mantissa * Nat.pow 2 (exponent - minExponent).toNat : Nat)
  if negative then -magnitude else magnitude

/-- The rounded sum. -/
def add : Binary64 → Binary64 → Binary64
  | .finite s m e, .finite s' m' e' =>
    let total := scaledInt s m e + scaledInt s' m' e'
    if total = 0 then zero (s && s')
    else
      let (a, b) := scaleRatio 2 total.natAbs 1 minExponent
      ofRatio (total < 0) a b
  | .infinite s, .infinite s' => if s = s' then .infinite s else .nan
  | .infinite s, .finite .. => .infinite s
  | .finite .., .infinite s => .infinite s
  | .nan, _ => .nan
  | _, .nan => .nan

/-- The rounded difference. -/
def sub (x y : Binary64) : Binary64 := add x y.neg

/-- The rounded product. -/
def mul : Binary64 → Binary64 → Binary64
  | .finite s m e, .finite s' m' e' =>
    let (a, b) := scaleRatio 2 (m * m') 1 (e + e')
    ofRatio (s != s') a b
  | .infinite s, .infinite s' => .infinite (s != s')
  | .infinite s, .finite s' m _ => if m = 0 then .nan else .infinite (s != s')
  | .finite s m _, .infinite s' => if m = 0 then .nan else .infinite (s != s')
  | .nan, _ => .nan
  | _, .nan => .nan

/-- The integer that a number equals, if there is one. -/
def toInt? : Binary64 → Option Int
  | .finite s m e =>
    let (a, b) := ratio m e
    if a % b = 0 then some (if s then -(a / b : Nat) else (a / b : Nat)) else none
  | _ => none

/-- Whether a number is zero, of either sign. -/
def isZero : Binary64 → Bool
  | .finite _ m _ => m == 0
  | _ => false

/-- The number of `10 ^ -places` in the magnitude of a finite number, rounded. -/
def countPlaces (places mantissa : Nat) (exponent : Int) : Nat :=
  let (a, b) := ratio mantissa exponent
  roundDiv (a * Nat.pow 10 places) b

/-- The number nearest to the multiple of `10 ^ -places` that is nearest to `x`. -/
def roundTo (places : Nat) : Binary64 → Binary64
  | .finite s m e => ofRatio s (countPlaces places m e) (Nat.pow 10 places)
  | x => x

theorem ofRatio_zero (negative : Bool) (den : Nat) : ofRatio negative 0 den = zero negative := by
  simp [ofRatio]

end Binary64

end Scaffold
