import Nurture.Number.Word

/-!
  Binary64 — the numbers of the IEEE 754 double format, as data

  A finite number is a sign, a mantissa below 2^53 and an exponent: the value is
  `±mantissa · 2^exponent`. `nearest` rounds a ratio of naturals to this format,
  ties to the even mantissa, so every number that arises has one form: the
  mantissa is at least 2^52 or the exponent is the least one.
-/

namespace Nurture

/-- A number of the double format. -/
inductive Binary64 where
  | nan
  | infinity (negative : Bool)
  | finite (negative : Bool) (mantissa : Nat) (exponent : Int)
  deriving DecidableEq, Repr

namespace Binary64

/-- The least exponent of a finite number. -/
def minExponent : Int := -1074

/-- The greatest exponent of a finite number. -/
def maxExponent : Int := 971

/-- The least mantissa of a number whose exponent is not the least one. -/
def fullMantissa : Nat := pow2 52

/-- The ratio `num / den` rounded to the nearest natural, a half to the even one. -/
def roundDiv (num den : Nat) : Nat :=
  let q := num / den
  let twice := 2 * (num % den)
  if twice > den || (twice = den && q % 2 = 1) then q + 1 else q

/-- The pair `num / den` divided by `2^e`, as a pair. -/
def scaleDown (num den : Nat) (e : Int) : Nat × Nat :=
  if 0 ≤ e then (num, den * pow2 e.toNat) else (num * pow2 (-e).toNat, den)

/-- The exponent at which `num / den` has a 53-bit integral part, or the least
exponent if that is greater. -/
def exponentFor (num den : Nat) : Int :=
  let guess : Int := (num.log2 : Int) - (den.log2 : Int) - 52
  let (a, b) := scaleDown num den guess
  max minExponent (if a / b < fullMantissa then guess - 1 else guess)

/-- The number of the format nearest to `±num / den`. -/
def nearest (negative : Bool) (num den : Nat) : Binary64 :=
  if num = 0 then finite negative 0 minExponent
  else
    let e := exponentFor num den
    let (a, b) := scaleDown num den e
    let m := roundDiv a b
    let (m, e) := if m = 2 * fullMantissa then (fullMantissa, e + 1) else (m, e)
    if maxExponent < e then infinity negative else finite negative m e

/-- The number nearest to `±digits · 10^exponent`. Beyond four hundred places in
front of or behind the point the answer is known without the power. -/
def ofDecimal (negative : Bool) (digits : Nat) (exponent : Int) : Binary64 :=
  let places : Int := exponent + (Nat.toDigits 10 digits).length
  if digits = 0 || places < -400 then finite negative 0 minExponent
  else if 400 < places then infinity negative
  else if 0 ≤ exponent then nearest negative (digits * pow10 exponent.toNat) 1
  else nearest negative digits (pow10 (-exponent).toNat)

/-- The number nearest to an integer. -/
def ofInt (n : Int) : Binary64 := nearest (n < 0) n.natAbs 1

/-- Numerator and denominator of the magnitude of a finite number. -/
def ratio (mantissa : Nat) (exponent : Int) : Nat × Nat :=
  if 0 ≤ exponent then (mantissa * pow2 exponent.toNat, 1) else (mantissa, pow2 (-exponent).toNat)

/-- The integer that a finite number equals, if it has no fraction. -/
def toInt? : Binary64 → Option Int
  | finite negative m e =>
    let (a, b) := ratio m e
    if a % b = 0 then
      some (if negative then -((a / b : Nat) : Int) else ((a / b : Nat) : Int))
    else none
  | _ => none

/-- Whether the number is neither infinite nor undefined. -/
def isFinite : Binary64 → Bool
  | finite .. => true
  | _ => false

/-- Whether the number is zero, of either sign. -/
def isZero : Binary64 → Bool
  | finite _ m _ => m == 0
  | _ => false

/-- The greatest integer not above a finite number; zero for the others. -/
def floor : Binary64 → Int
  | finite negative m e =>
    let (a, b) := ratio m e
    if negative then -(((a + b - 1) / b : Nat) : Int) else ((a / b : Nat) : Int)
  | _ => 0

/-- A finite number times `num / den`, rounded. -/
def scaledBy (num den : Nat) : Binary64 → Binary64
  | finite negative m e =>
    let (a, b) := ratio m e
    nearest negative (a * num) (b * den)
  | x => x

/-- How far a finite number is above the integer below it, rounded. -/
def aboveFloor : Binary64 → Binary64
  | finite negative m e =>
    let (a, b) := ratio m e
    nearest false (if negative then (b - a % b) % b else a % b) b
  | x => x

/-- The magnitude of a finite number rounded to the nearest natural, a half upwards. -/
def roundHalfUp : Binary64 → Nat
  | finite _ m e =>
    let (a, b) := ratio m e
    (2 * a + b) / (2 * b)
  | _ => 0

/-- Whether the magnitude of a finite number is above a natural. -/
def exceeds (n : Nat) : Binary64 → Bool
  | finite _ m e =>
    let (a, b) := ratio m e
    n * b < a
  | _ => true

/-- Whether a finite number is at most another one. -/
def finiteAtMost (s : Bool) (m : Nat) (e : Int) (t : Bool) (n : Nat) (f : Int) : Bool :=
  let (a, b) := ratio m e
  let (c, d) := ratio n f
  let signed (negative : Bool) (k : Nat) : Int := if negative then -k else k
  signed s (a * d) ≤ signed t (c * b)

/-- Whether the number is at most another one; an undefined number is not. -/
def atMost : Binary64 → Binary64 → Bool
  | nan, _ | _, nan => false
  | infinity true, _ | _, infinity false => true
  | infinity false, _ | _, infinity true => false
  | finite s m e, finite t n f => finiteAtMost s m e t n f

/-- Whether two numbers are equal as numbers: zero has no sign, and an undefined
number equals nothing. -/
def same : Binary64 → Binary64 → Bool
  | nan, _ => false
  | _, nan => false
  | finite s m e, finite t n f => (m == 0 && n == 0) || (s == t && m == n && e == f)
  | x, y => x == y

end Binary64

end Nurture
