import Nurture.Number.Binary64

/-!
  The shortest decimal of a number

  A finite number of the double format is the nearest one to every real between
  the midpoints to its neighbours. Of the decimals in that interval, `shortest`
  takes one with the fewest digits, and of those the nearest to the number. A
  `DecimalStyle` then says how the digits are set: up to which exponents in
  positional notation, and what the rest looks like.
-/

namespace Nurture

/-- The decimal `digits · 10^exponent`. -/
structure Decimal where
  digits : Nat
  exponent : Int
  deriving DecidableEq, Repr

namespace Decimal

/-- How many digits `n` has. -/
def digitCount (n : Nat) : Nat := (Nat.toDigits 10 n).length

/-- The exponent of the first significant digit of the positive ratio `num / den`. -/
def leadingExponent (num den : Nat) : Int :=
  if den ≤ num then (digitCount (num / den) : Int) - 1
  else -(digitCount ((den + num - 1) / num - 1) : Int)

/-- The pair `num / den` divided by `10^k`, as a pair. -/
def scaleTen (num den : Nat) (k : Int) : Nat × Nat :=
  if 0 ≤ k then (num, den * pow10 k.toNat) else (num * pow10 (-k).toNat, den)

/-- The decimal of `count` digits nearest to the positive ratio `num / den`, of two
the greater. -/
def rounded (count num den : Nat) : Decimal :=
  let k := leadingExponent num den - count + 1
  let (a, b) := scaleTen num den k
  ⟨(2 * a + b) / (2 * b), k⟩

/-- A decimal of `count` digits whose quarter steps lie in the interval from
`low` to `high`, both ends included if `closed`, the one nearest to `mid` if
there are two. The three are in units of `1 / den`. -/
def within? (count low mid high den : Nat) (closed : Bool) : Option Decimal :=
  let k := leadingExponent mid den - count + 1
  let (a, b) := scaleTen 1 1 k
  let unit := den * b
  let inside (d : Nat) : Bool :=
    if closed then low * a ≤ d * unit && d * unit ≤ high * a
    else low * a < d * unit && d * unit < high * a
  let below := mid * a / unit
  let above := below + 1
  let nearer := Binary64.roundDiv (mid * a) unit
  if inside nearer then some ⟨nearer, k⟩
  else if inside below then some ⟨below, k⟩
  else if inside above then some ⟨above, k⟩
  else none

/-- The decimal with the fewest digits that reads back as the positive number
`mantissa · 2^exponent`; seventeen digits always do. -/
def shortest (mantissa : Nat) (exponent : Int) : Decimal :=
  let least := mantissa = Binary64.fullMantissa && Binary64.minExponent < exponent
  let (unit, den) := Binary64.ratio 1 (exponent - 2)
  let mid := 4 * mantissa * unit
  let low := mid - (if least then 1 else 2) * unit
  let high := mid + 2 * unit
  let closed := mantissa % 2 == 0
  ((List.range 17).findSome? fun n => within? (n + 1) low mid high den closed).getD
    (rounded 17 mid den)

/-- The decimal without zeros at the end of its digits. -/
def dropZeros : Nat → Decimal → Decimal
  | 0, d => d
  | fuel + 1, d =>
    if d.digits % 10 = 0 && d.digits ≠ 0 then dropZeros fuel ⟨d.digits / 10, d.exponent + 1⟩ else d

end Decimal

/-- How the digits of a number are set. -/
structure DecimalStyle where
  /-- The least exponent of the first digit that is written positionally. -/
  positionalFrom : Int
  /-- The exponents of the first digit from which on the number is not written
  positionally. -/
  positionalBelow : Int
  /-- Whether a mantissa of one digit is followed by a point and a zero. -/
  wholeMantissaPoint : Bool
  /-- How many significant digits are kept at most; `none` for as many as the
  number needs. -/
  keptDigits : Option Nat

namespace DecimalStyle

/-- The exponent as written: a sign and two digits at least. -/
def exponentText (e : Int) : String :=
  let ds := toString e.natAbs
  (if e < 0 then "e-" else "e+") ++ (if ds.length < 2 then "0" ++ ds else ds)

/-- The digits with their point. -/
def place (style : DecimalStyle) (d : Decimal) : String :=
  let ds := Nat.toDigits 10 d.digits
  let count : Int := ds.length
  let lead := d.exponent + count - 1
  if style.positionalFrom ≤ lead && lead < style.positionalBelow then
    if 0 ≤ d.exponent then
      String.ofList (ds ++ List.replicate d.exponent.toNat '0') ++ ".0"
    else if 0 ≤ lead then
      let cut := (lead + 1).toNat
      String.ofList (ds.take cut ++ '.' :: ds.drop cut)
    else
      String.ofList ('0' :: '.' :: (List.replicate (-lead - 1).toNat '0' ++ ds))
  else
    match ds with
    | [d0] =>
      String.ofList (d0 :: (if style.wholeMantissaPoint then ['.', '0'] else []))
        ++ exponentText lead
    | d0 :: rest => String.ofList (d0 :: '.' :: rest) ++ exponentText lead
    | [] => exponentText lead

/-- The text of a number; the caller says how the numbers without digits look. -/
def text (style : DecimalStyle) (undefined infinite : String) : Binary64 → String
  | .nan => undefined
  | .infinity negative => (if negative then "-" else "") ++ infinite
  | .finite negative m e =>
    let magnitude :=
      if m = 0 then "0.0"
      else
        let d :=
          match style.keptDigits with
          | none => Decimal.shortest m e
          | some count =>
            let (a, b) := Binary64.ratio m e
            Decimal.rounded count a b
        style.place (Decimal.dropZeros (Decimal.digitCount d.digits) d)
    (if negative then "-" else "") ++ magnitude

end DecimalStyle

end Nurture
